import ScatterSearch.Proofs.Query.Accounting
import ScatterSearch.Proofs.Time.Run
import ScatterSearch.Query.Monitor

/-!
# How long an ended query is seen

A query that ended stays listed for the grace delay, and the next sweep after that takes it out. So
it is seen for at least the delay, and for at most one sweep interval more; a query that runs is
always seen (`StatusMonitor.visible_until_swept`).

* `StatusMonitor.Deed` is what others can do with a registry that is swept. They may do so at any
  instant, and how they do it is left open; they may sweep by hand, too;
* `QueryStatus.Dated` says what keeps a record listed: it is taken out only when its end lies back
  for the delay;
* `StatusMonitor.Sweeping` says what takes it out: the next sweep is at most one interval away, and
  no later than the delay and one interval after the end of whatever is listed.

Both are kept by everything that happens; the second one from the start of the sweep on, for queries
that end after it.
-/

namespace ScatterSearch

namespace QueryStatus

variable {q q' : QueryStatus} {delay now now' interval since due : Nat}

/-- A query can be swept some time after it ended. -/
theorem isCleanable_iff :
    q.isCleanable delay now = true ↔ ∃ ended, q.finished = some ended ∧ delay ≤ now - ended := by
  rw [isCleanable]
  cases q.finished <;> simp

/-- A record that is taken out only when its end lies back for the delay. -/
structure Dated (delay now : Nat) (q : QueryStatus) : Prop where
  sound : q.Sound
  past : ∀ ended, q.finished = some ended → ended ≤ now
  swept : q.listed = false → ∃ ended, q.finished = some ended ∧ ended + delay ≤ now

/-- Dates stay in the past. -/
theorem Dated.later (h : q.Dated delay now) (hle : now ≤ now') : q.Dated delay now' where
  sound := h.sound
  past := fun ended hended => Nat.le_trans (h.past ended hended) hle
  swept := by
    intro hlisted
    obtain ⟨ended, hended, hdelay⟩ := h.swept hlisted
    exact ⟨ended, hended, Nat.le_trans hdelay hle⟩

/-- What has an end does not run. -/
theorem Dated.ended (h : q.Dated delay now) {ended : Nat} (hended : q.finished = some ended) :
    q.state ≠ .running := by
  intro hrun
  rw [(h.sound hrun).2] at hended
  cases hended

/-- What happens to a query dates its end. -/
theorem Dated.follows (h : q.Dated delay now) (hf : Follows delay now q q') :
    q'.Dated delay now := by
  have hsound := hf.sound h.sound
  refine ⟨hsound, fun ended hended => ?_, fun hlisted => ?_⟩
  · by_cases hrun : q.state = .running
    · rcases hf.ends hrun with hrun' | hnow
      · rw [(hsound hrun').2] at hended
        cases hended
      · rw [hnow] at hended
        exact Nat.le_of_eq (Option.some.inj hended).symm
    · exact h.past ended ((hf.ended hrun).2 ▸ hended)
  · rcases hf.listed with hsame | ⟨-, hcleanable⟩
    · obtain ⟨ended, hended, hdelay⟩ := h.swept (hsame ▸ hlisted)
      exact ⟨ended, (hf.ended (h.ended hended)).2.trans hended, hdelay⟩
    · obtain ⟨ended, hended, hdelay⟩ := isCleanable_iff.1 hcleanable
      have hpast := h.past ended hended
      exact ⟨ended, (hf.ended (h.ended hended)).2.trans hended, by omega⟩

/-- The sweep at `due` comes in time for a record that is listed and ended at `since` or later. -/
def Awaits (delay interval since due : Nat) (q : QueryStatus) : Prop :=
  ∀ ended, q.listed = true → q.finished = some ended → since ≤ ended →
    due ≤ ended + delay + interval

/-- A query that awaits a sweep does so still, whatever happens before the sweep. -/
theorem Awaits.follows (h : q.Awaits delay interval since due) (hdated : q.Dated delay now)
    (hf : Follows delay now q q') (hdue : due ≤ now + interval) :
    q'.Awaits delay interval since due := by
  intro ended hlisted hended hsince
  by_cases hrun : q.state = .running
  · have hnow := (hdated.follows hf).past ended hended
    rcases hf.ends hrun with hrun' | hends
    · rw [(hf.sound hdated.sound hrun').2] at hended
      cases hended
    · rw [hends] at hended
      have heq := Option.some.inj hended
      omega
  · have hbefore : q.finished = some ended := (hf.ended hrun).2 ▸ hended
    rcases hf.listed with hsame | ⟨hout, -⟩
    · exact h ended (hsame ▸ hlisted) hbefore hsince
    · rw [hout] at hlisted
      cases hlisted

/-- What a record at one instant is at a later one: an end is kept, and the end of a query that ran
lies between the two. -/
structure GoesOn (first last : Nat) (q q' : QueryStatus) : Prop where
  le : first ≤ last
  ended : q.state ≠ .running → q'.state = q.state ∧ q'.finished = q.finished
  ends : q.state = .running → q'.state = .running ∨
    ∃ ended, q'.finished = some ended ∧ first ≤ ended ∧ ended ≤ last

theorem GoesOn.refl (now : Nat) (q : QueryStatus) : GoesOn now now q q :=
  ⟨Nat.le_refl _, fun _ => ⟨rfl, rfl⟩, .inl⟩

/-- A query that went on has done so later, too. -/
theorem GoesOn.later (h : GoesOn since now q q') (hle : now ≤ now') : GoesOn since now' q q' where
  le := Nat.le_trans h.le hle
  ended := h.ended
  ends := by
    intro hrun
    rcases h.ends hrun with hrun' | ⟨ended, hended, hfirst, hlast⟩
    · exact .inl hrun'
    · exact .inr ⟨ended, hended, hfirst, Nat.le_trans hlast hle⟩

/-- What happens to a query lets it go on. -/
theorem GoesOn.follows {q'' : QueryStatus} (h : GoesOn since now q q')
    (hf : Follows delay now q' q'') : GoesOn since now q q'' where
  le := h.le
  ended := by
    intro hended
    obtain ⟨hstate, hfinished⟩ := h.ended hended
    obtain ⟨hstate', hfinished'⟩ := hf.ended (hstate ▸ hended)
    exact ⟨hstate'.trans hstate, hfinished'.trans hfinished⟩
  ends := by
    intro hrun
    by_cases hrun' : q'.state = .running
    · exact (hf.ends hrun').imp_right fun hnow => ⟨now, hnow, h.le, Nat.le_refl _⟩
    · obtain ⟨hstate, hfinished⟩ := hf.ended hrun'
      rw [hstate, hfinished]
      exact h.ends hrun

end QueryStatus

namespace StatusRegistry

open QueryStatus (Follows)

variable {r : StatusRegistry} {a : Act} {delay now now' interval since due : Nat}

/-- The delay of sweeps is the same for ever. -/
theorem cleanupDelay_perform : (a.perform now r).cleanupDelay = r.cleanupDelay := by
  cases a with
  | setFlag place value => rfl
  | deed d => cases d <;> rfl

/-- The records of a registry with this grace delay. -/
structure Dated (delay now : Nat) (r : StatusRegistry) : Prop where
  delay_eq : r.cleanupDelay = delay
  records : ∀ place q, r.status? place = some q → q.Dated delay now

theorem dated_empty (delay now : Nat) : Dated delay now (.empty delay) :=
  ⟨rfl, fun _ _ hq => by cases hq⟩

theorem Dated.later (h : r.Dated delay now) (hle : now ≤ now') : r.Dated delay now' :=
  ⟨h.delay_eq, fun place q hq => (h.records place q hq).later hle⟩

/-- What an act makes of a record, if the record was there. -/
theorem Dated.follows (h : r.Dated delay now) {place : Nat} {q q' : QueryStatus}
    (hq : r.status? place = some q) (hq' : (a.perform now r).status? place = some q') :
    Follows delay now q q' := by
  obtain ⟨q'', hq'', hf⟩ := follows_perform hq now a
  obtain rfl := Option.some.inj (hq''.symm.trans hq')
  exact h.delay_eq ▸ hf

/-- Whatever is done, ends are dated. -/
theorem Dated.perform (h : r.Dated delay now) (a : Act) : (a.perform now r).Dated delay now := by
  refine ⟨cleanupDelay_perform.trans h.delay_eq, fun place q' hq' => ?_⟩
  cases hq : r.status? place with
  | none =>
    obtain ⟨hrun, hsound⟩ := fresh_of_perform hq' hq
    obtain ⟨hlisted, hnone⟩ := hsound hrun
    exact ⟨hsound, fun ended hended => (nomatch hnone.symm.trans hended),
      fun hout => nomatch hlisted.symm.trans hout⟩
  | some q => exact (h.records place q hq).follows (h.follows hq hq')

/-- The record at a place is listed, also among those of its table. -/
def Shows (r : StatusRegistry) (place : Nat) : Prop :=
  ∃ q, r.status? place = some q ∧ q ∈ r.listed ∧ q ∈ r.list q.table

/-- The record at a place is listed nowhere. -/
def Hides (r : StatusRegistry) (place : Nat) : Prop :=
  ∃ q, r.status? place = some q ∧ q ∉ r.listed ∧ ∀ table, q ∉ r.list table

/-- A query that is listed shows. -/
theorem shows_of_listed {place : Nat} {q : QueryStatus} (hq : r.status? place = some q)
    (hlisted : q.listed = true) : r.Shows place := by
  have hmem : q ∈ r.listed := List.mem_filter.2 ⟨List.mem_of_getElem? hq, hlisted⟩
  exact ⟨q, hq, hmem, List.mem_filter.2 ⟨hmem, beq_self_eq_true q.table⟩⟩

/-- One that is not, hides. -/
theorem hides_of_not_listed {place : Nat} {q : QueryStatus} (hq : r.status? place = some q)
    (hlisted : q.listed = false) : r.Hides place := by
  have hnot : q ∉ r.listed := fun hmem => nomatch hlisted.symm.trans (List.mem_filter.1 hmem).2
  exact ⟨q, hq, hnot, fun table hmem => hnot (List.mem_filter.1 hmem).1⟩

/-- The sweep at `due` comes in time for all records. -/
def Awaits (delay interval since due : Nat) (r : StatusRegistry) : Prop :=
  ∀ place q, r.status? place = some q → q.Awaits delay interval since due

/-- Whatever is done before the sweep, queries await it. -/
theorem Awaits.perform (h : r.Awaits delay interval since due) (hdated : r.Dated delay now)
    (hdue : due ≤ now + interval) (a : Act) :
    (a.perform now r).Awaits delay interval since due := by
  intro place q' hq'
  cases hq : r.status? place with
  | none =>
    obtain ⟨hrun, hsound⟩ := fresh_of_perform hq' hq
    exact fun ended _ hended => nomatch (hsound hrun).2.symm.trans hended
  | some q =>
    exact (h place q hq).follows (hdated.records place q hq) (hdated.follows hq hq') hdue

/-- After a sweep the delay is not over for what is listed, so the next sweep comes in time. -/
theorem awaits_cleanup (hdated : r.Dated delay now) :
    ((Act.deed .cleanup).perform now r).Awaits delay interval since (now + interval) := by
  intro place q' hq' ended hlisted hended _
  have hstatus : (r.cleanup now).2.status? place = some q' := hq'
  rw [status?_cleanup, Option.map_eq_some_iff] at hstatus
  obtain ⟨q, hq, rfl⟩ := hstatus
  split at hlisted
  · cases hlisted
  · rename_i hnot
    rw [if_neg hnot] at hended
    have hkept : ¬ q.isCleanable delay now = true := by
      rw [hlisted, Bool.true_and, hdated.delay_eq] at hnot
      exact hnot
    have hpast := (hdated.records place q hq).past ended hended
    have hdelay : ¬ delay ≤ now - ended := fun hle =>
      hkept (QueryStatus.isCleanable_iff.2 ⟨ended, hended, hle⟩)
    omega

end StatusRegistry

namespace StatusMonitor

open StatusRegistry (Act)

/-- What others can do with a registry that is swept. -/
inductive Deed where
  | act (a : Act)
  | start
  | shutdown
  /-- so much memory is in use from now on -/
  | memory (used : Option UInt64)
  | watchMemory (p : Pressure) (period : Nat)
  | unwatchMemory
  | wait (place : Nat)

namespace Deed

def perform : Deed → Nat → StatusMonitor → StatusMonitor
  | .act a, now, m => { m with registry := a.perform now m.registry }
  | .start, now, m => m.start now
  | .shutdown, _, m => m.shutdown
  | .memory used, _, m => { m with memory := used }
  | .watchMemory p period, now, m => m.watchMemory now p period
  | .unwatchMemory, _, m => { m with pressure := none }
  | .wait place, _, m => m.wait place

/-- Whether a deed leaves the sweep alone. -/
def sparesSweep : Deed → Bool
  | .start => false
  | .shutdown => false
  | _ => true

end Deed

variable {m : StatusMonitor} {d : Deed} {u : Timed StatusMonitor}
  {delay now interval since place : Nat}

/-- What all acts keep is kept by a deed. -/
theorem registry_perform {P : StatusRegistry → Prop} (hact : ∀ r a, P r → P (Act.perform now r a))
    (h : P m.registry) : P (d.perform now m).registry := by
  cases d with
  | act a => exact hact _ a h
  | start | shutdown | memory | watchMemory | unwatchMemory | wait => exact h

/-! What happens by itself is no more than what can be done with a registry. -/

/-- What all deeds of a registry keep, the turn of the watcher keeps. -/
theorem registry_firePressure {P : StatusRegistry → Prop}
    (hdeed : ∀ r (d : StatusRegistry.Deed), P r → P (d.perform now r)) (h : P m.registry) :
    P (m.firePressure now).registry := by
  rw [firePressure]
  split
  · split
    · rw [Pressure.check]
      split
      · exact hdeed _ .cancelAll h
      · exact h
    · exact h
  · exact h

/-- What all deeds of a registry keep, the turn of the sweeper keeps. -/
theorem registry_fireSweep {P : StatusRegistry → Prop}
    (hdeed : ∀ r (d : StatusRegistry.Deed), P r → P (d.perform now r)) (h : P m.registry) :
    P (m.fireSweep now).registry := by
  rw [fireSweep]
  split
  · split
    · exact hdeed _ .cleanup h
    · exact h
  · exact h

/-- What all deeds of a registry keep, the turn of its monitor keeps. -/
theorem registry_fire {P : StatusRegistry → Prop}
    (hdeed : ∀ r (d : StatusRegistry.Deed), P r → P (d.perform now r)) (h : P m.registry) :
    P (m.fire now).registry :=
  registry_firePressure (m := m.fireSweep now) hdeed (registry_fireSweep hdeed h)

/-- In every run records are taken out only when their ends lie back for the delay. -/
theorem dated_of_run {t : Timed StatusMonitor} {trace : List (Nat × Deed)}
    (h : Run machine Deed.perform t trace u) (hdated : t.state.registry.Dated delay t.now) :
    u.state.registry.Dated delay u.now :=
  h.invariant (I := fun _ u => u.state.registry.Dated delay u.now) hdated
    (fun _ _ _ h _ _ => registry_fire (fun _ d h => h.perform (.deed d)) h)
    (fun _ _ _ h hle _ => h.later hle)
    (fun _ _ _ h => registry_perform (fun _ a h => h.perform a) h)

/-- The sweep goes on, and its next tick comes in time for all that ended since it was started. -/
def Sweeping (delay interval since : Nat) (u : Timed StatusMonitor) : Prop :=
  ∃ due, u.state.sweep = some ⟨interval, due⟩ ∧ u.now ≤ due ∧ due ≤ u.now + interval ∧
    u.state.registry.Awaits delay interval since due

/-- A monitor that starts will sweep after its interval. -/
theorem sweeping_start (m : StatusMonitor) (now : Nat) :
    Sweeping delay (max m.cleanupInterval 1) now ⟨now, m.start now⟩ := by
  refine ⟨_, rfl, Nat.le_add_right _ _, Nat.le_refl _, fun place q hq ended _ _ hsince => ?_⟩
  change now + max m.cleanupInterval 1 ≤ _
  omega

/-- The watcher does nothing to the sweeper. -/
theorem sweep_firePressure : (m.firePressure now).sweep = m.sweep := by
  rw [firePressure]
  split
  · split <;> rfl
  · rfl

/-- A tick that comes when it is due is followed by the next one an interval later. -/
theorem Sweeping.fire (h : Sweeping delay interval since u)
    (hdated : u.state.registry.Dated delay u.now) :
    Sweeping delay interval since ⟨u.now, u.state.fire u.now⟩ := by
  obtain ⟨due, hsweep, hnow, hdue, hawaits⟩ := h
  have hdeed : ∀ due' ≤ u.now + interval, ∀ (r : StatusRegistry) (d : StatusRegistry.Deed),
      (r.Dated delay u.now ∧ r.Awaits delay interval since due') →
        (d.perform u.now r).Dated delay u.now ∧
          (d.perform u.now r).Awaits delay interval since due' :=
    fun due' hdue' r d h => ⟨h.1.perform (.deed d), h.2.perform h.1 hdue' (.deed d)⟩
  have hfire : (u.state.fire u.now).sweep = (u.state.fireSweep u.now).sweep := sweep_firePressure
  by_cases htick : due ≤ u.now
  · obtain rfl := Nat.le_antisymm hnow htick
    have hswept : u.state.fireSweep u.now = { u.state with
        sweep := some ⟨interval, u.now + interval⟩
        registry := (u.state.registry.cleanup u.now).2 } := by
      simp only [fireSweep, hsweep, Ticker.take, Nat.le_refl, if_true,
        if_neg (Nat.not_lt.2 (Nat.le_add_right u.now Ticker.tolerance))]
    refine ⟨u.now + interval, by rw [hfire, hswept], Nat.le_add_right _ _, Nat.le_refl _, ?_⟩
    refine (registry_firePressure (m := u.state.fireSweep u.now)
      (hdeed _ (Nat.le_refl _)) ⟨?_, ?_⟩).2
    · rw [hswept]
      exact hdated.perform (.deed .cleanup)
    · rw [hswept]
      exact StatusRegistry.awaits_cleanup hdated
  · have hquiet : u.state.fireSweep u.now = u.state := by
      simp only [fireSweep, hsweep, if_neg htick]
    refine ⟨due, by rw [hfire, hquiet, hsweep], hnow, hdue, ?_⟩
    refine (registry_firePressure (m := u.state.fireSweep u.now) (hdeed _ hdue) ?_).2
    rw [hquiet]
    exact ⟨hdated, hawaits⟩

/-- Time passes until the sweep is due, and no further. -/
theorem Sweeping.pass (h : Sweeping delay interval since u) (hle : u.now ≤ now)
    (hdue : ∀ due, machine.due u.state = some due → now ≤ due) :
    Sweeping delay interval since ⟨now, u.state⟩ := by
  obtain ⟨due, hsweep, -, hbound, hawaits⟩ := h
  obtain ⟨first, hfirst, hfirst_le⟩ : ∃ first, machine.due u.state = some first ∧ first ≤ due := by
    change ∃ first, StatusMonitor.due u.state = some first ∧ first ≤ due
    rw [StatusMonitor.due, hsweep]
    cases u.state.pressure with
    | none => exact ⟨due, rfl, Nat.le_refl _⟩
    | some look => exact ⟨_, rfl, Nat.min_le_left _ _⟩
  exact ⟨due, hsweep, Nat.le_trans (hdue first hfirst) hfirst_le,
    Nat.le_trans hbound (Nat.add_le_add_right hle _), hawaits⟩

/-- Whatever spares the sweeper, the next sweep comes. -/
theorem Sweeping.perform (h : Sweeping delay interval since u)
    (hdated : u.state.registry.Dated delay u.now) (hd : d.sparesSweep = true) :
    Sweeping delay interval since ⟨u.now, d.perform u.now u.state⟩ := by
  obtain ⟨due, hsweep, hnow, hdue, hawaits⟩ := h
  have hsame : (d.perform u.now u.state).sweep = u.state.sweep := by
    cases d with
    | start => cases hd
    | shutdown => cases hd
    | _ => rfl
  refine ⟨due, hsame.trans hsweep, hnow, hdue, ?_⟩
  exact (registry_perform (P := fun r => r.Dated delay u.now ∧ r.Awaits delay interval since due)
    (fun r a h => ⟨h.1.perform a, h.2.perform h.1 hdue a⟩) ⟨hdated, hawaits⟩).2

/-- In every run that spares the sweeper sweeps come. -/
theorem sweeping_of_run {t : Timed StatusMonitor} {trace : List (Nat × Deed)}
    (h : Run machine Deed.perform t trace u) (hdated : t.state.registry.Dated delay t.now)
    (hsweeping : Sweeping delay interval since t) (hspares : ∀ a ∈ trace, a.2.sparesSweep = true) :
    Sweeping delay interval since u := by
  induction h with
  | start => exact hsweeping
  | fire hrun _ _ ih => exact (ih hspares).fire (dated_of_run hrun hdated)
  | pass _ hle hdue ih => exact (ih hspares).pass hle hdue
  | act d hrun ih =>
    refine (ih fun a ha => hspares a (List.mem_append_left _ ha)).perform
      (dated_of_run hrun hdated) ?_
    exact hspares _ (List.mem_append_right _ (List.mem_singleton.2 rfl))

/-! ## Runs -/

theorem cleanupInterval_fire : (m.fire now).cleanupInterval = m.cleanupInterval := by
  have hsweep : (m.fireSweep now).cleanupInterval = m.cleanupInterval := by
    rw [fireSweep]
    split
    · split <;> rfl
    · rfl
  rw [fire, settle, ← hsweep]
  simp only [firePressure]
  split
  · split <;> rfl
  · rfl

/-- The interval of the sweep stays what it was. -/
theorem cleanupInterval_of_run {t : Timed StatusMonitor} {trace : List (Nat × Deed)}
    (h : Run machine Deed.perform t trace u) :
    u.state.cleanupInterval = t.state.cleanupInterval := by
  induction h with
  | start => rfl
  | fire _ _ _ ih => exact cleanupInterval_fire.trans ih
  | pass _ _ _ ih => exact ih
  | act d _ ih => cases d <;> exact ih

/-- In a run every record goes on. -/
theorem goesOn_of_run {t : Timed StatusMonitor} {trace : List (Nat × Deed)} {q : QueryStatus}
    (h : Run machine Deed.perform t trace u) (hq : t.state.registry.status? place = some q) :
    ∃ q', u.state.registry.status? place = some q' ∧ q.GoesOn t.now u.now q' := by
  have hact (now : Nat) (r : StatusRegistry) (a : Act)
      (h : ∃ q', r.status? place = some q' ∧ q.GoesOn t.now now q') :
      ∃ q', (a.perform now r).status? place = some q' ∧ q.GoesOn t.now now q' := by
    obtain ⟨q', hq', hgoes⟩ := h
    obtain ⟨q'', hq'', hf⟩ := StatusRegistry.follows_perform hq' now a
    exact ⟨q'', hq'', hgoes.follows hf⟩
  refine h.invariant
    (I := fun _ u => ∃ q', u.state.registry.status? place = some q' ∧ q.GoesOn t.now u.now q')
    ⟨q, hq, .refl _ q⟩ ?_ ?_ ?_
  · intro _ u _ h _ _
    exact registry_fire (fun r d => hact u.now r (.deed d)) h
  · rintro _ u now ⟨q', hq', hgoes⟩ hle -
    exact ⟨q', hq', hgoes.later hle⟩
  · intro _ u d h
    exact registry_perform (hact u.now) h

/-- Let a sweep be started, at any time in the life of a registry, and let nobody start it again or
stop it. Whenever then a query runs, it is listed; and if it ends, at whatever instant, it is listed
until the delay is over and no longer listed once an interval has passed after that. -/
theorem visible_until_swept {delay interval begin : Nat} {s v : Timed StatusMonitor}
    {before meanwhile : List (Nat × Deed)}
    (hbefore : Run machine Deed.perform ⟨begin, .new delay interval⟩ before s)
    (hv : Run machine Deed.perform ⟨s.now, s.state.start s.now⟩ meanwhile v)
    (hspares : ∀ a ∈ meanwhile, a.2.sparesSweep = true) {place : Nat}
    (hruns : v.state.registry.StateIs (· = .running) place) :
    v.state.registry.Shows place ∧
      ∀ {w u : Timed StatusMonitor} {ending after : List (Nat × Deed)},
        Run machine Deed.perform v ending w → w.now = v.now →
        w.state.registry.StateIs (· ≠ .running) place →
        Run machine Deed.perform w after u → (∀ a ∈ ending ++ after, a.2.sparesSweep = true) →
        (u.now < w.now + delay → u.state.registry.Shows place) ∧
          (w.now + delay + max interval 1 < u.now → u.state.registry.Hides place) := by
  obtain ⟨q, hq, hrun⟩ := hruns
  have hinterval : max s.state.cleanupInterval 1 = max interval 1 := by
    rw [cleanupInterval_of_run hbefore]
    rfl
  have hdated_s : s.state.registry.Dated delay s.now :=
    dated_of_run hbefore (StatusRegistry.dated_empty delay begin)
  have hdated_v := dated_of_run hv hdated_s
  refine ⟨StatusRegistry.shows_of_listed hq ((hdated_v.records place q hq).sound hrun).1, ?_⟩
  intro w u ending after hw hnow hended hu hspares'
  obtain ⟨qw, hqw, hnot⟩ := hended
  -- the query ended at the instant of `w`, and that is what its record says for good
  obtain ⟨qw', hqw', hgoes⟩ := goesOn_of_run hw hq
  obtain rfl := Option.some.inj (hqw'.symm.trans hqw)
  obtain ⟨ended, hfinished, hfirst, hlast⟩ := (hgoes.ends hrun).resolve_left hnot
  obtain rfl : ended = w.now := by omega
  obtain ⟨qu, hqu, hgoes'⟩ := goesOn_of_run hu hqw
  have hended_u : qu.finished = some w.now := (hgoes'.ended hnot).2.trans hfinished
  have hdated_u := (dated_of_run hu (dated_of_run hw hdated_v)).records place qu hqu
  have hsweeping : Sweeping delay (max interval 1) s.now u := by
    have hstart : Sweeping delay (max interval 1) s.now ⟨s.now, s.state.start s.now⟩ :=
      hinterval ▸ sweeping_start s.state s.now
    refine sweeping_of_run ((hv.trans hw).trans hu) hdated_s hstart fun a ha => ?_
    rw [List.append_assoc] at ha
    rcases List.mem_append.1 ha with ha | ha
    · exact hspares a ha
    · exact hspares' a ha
  cases hlisted : qu.listed with
  | true =>
    refine ⟨fun _ => StatusRegistry.shows_of_listed hqu hlisted, fun hlate => ?_⟩
    obtain ⟨due, -, hdue, -, hawaits⟩ := hsweeping
    have hsince : s.now ≤ w.now := by
      rw [hnow]
      exact hv.now_le
    have := hawaits place qu hqu w.now hlisted hended_u hsince
    omega
  | false =>
    refine ⟨fun hearly => ?_, fun _ => StatusRegistry.hides_of_not_listed hqu hlisted⟩
    obtain ⟨ended, hended, hdelay⟩ := hdated_u.swept hlisted
    rw [hended_u] at hended
    have := Option.some.inj hended
    omega

/-- A query that runs, in a registry with a delay of ten that is swept every four milliseconds. -/
def brief : StatusMonitor :=
  (Deed.act (.deed (.register "t" (.named "q")))).perform 0 ((new 10 4).start 0)

/-- The same registry when the query has ended at the third millisecond and, after three sweeps,
somebody sweeps once more by hand. -/
def briefEnded : StatusMonitor :=
  (Deed.act (.deed .cleanup)).perform 12
    ((((Deed.act (.deed (.finish 0))).perform 3 brief).fire 4 |>.fire 8).fire 12)

/-- The sweep at sixteen is the first after the delay. -/
theorem brief_gone_after_sixteen :
    brief.registry.Shows 0 ∧ briefEnded.registry.Shows 0 ∧
      (briefEnded.fire 16).registry.Hides 0 := by
  have hv : Run machine Deed.perform ⟨0, (new 10 4).start 0⟩
      ([] ++ [(0, Deed.act (.deed (.register "t" (.named "q"))))]) ⟨3, brief⟩ := by
    refine (Run.start.act _).pass (Nat.zero_le 3) fun due hdue => ?_
    obtain rfl : 4 = due := Option.some.inj hdue
    decide
  have hw : Run machine Deed.perform ⟨3, brief⟩ ([] ++ [(3, Deed.act (.deed (.finish 0)))])
      ⟨3, (Deed.act (.deed (.finish 0))).perform 3 brief⟩ := Run.start.act _
  have htwelve : Run machine Deed.perform ⟨3, (Deed.act (.deed (.finish 0))).perform 3 brief⟩
      ([] ++ [(12, Deed.act (.deed .cleanup))]) ⟨12, briefEnded⟩ :=
    Run.act (u := ⟨12, _⟩) (Deed.act (.deed .cleanup))
      (((Run.start.fireAt (show machine.due _ = some 4 from rfl)).fireAt
        (show machine.due _ = some 8 from rfl)).fireAt (show machine.due _ = some 12 from rfl))
  have heighteen : Run machine Deed.perform ⟨3, (Deed.act (.deed (.finish 0))).perform 3 brief⟩
      ([] ++ [(12, Deed.act (.deed .cleanup))]) ⟨18, briefEnded.fire 16⟩ := by
    have hsixteen : machine.due briefEnded = some 16 := rfl
    refine (htwelve.fireAt hsixteen).pass (by decide) fun due hdue => ?_
    obtain rfl : 20 = due := Option.some.inj hdue
    decide
  have hruns : brief.registry.StateIs (· = .running) 0 := ⟨_, rfl, rfl⟩
  obtain ⟨hshows, hended⟩ := visible_until_swept .start hv (by decide) hruns
  have hnot : ((Deed.act (.deed (.finish 0))).perform 3 brief).registry.StateIs (· ≠ .running) 0 :=
    ⟨_, rfl, QueryState.noConfusion⟩
  exact ⟨hshows, (hended hw rfl hnot htwelve (by decide)).1 (by decide),
    (hended hw rfl hnot heighteen (by decide)).2 (by decide)⟩

end StatusMonitor

end ScatterSearch
