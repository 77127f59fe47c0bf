import Mathlib.Data.List.TakeWhile
import ScatterSearch.Cluster.Server

/-!
# How servers can be written

A text is a server if it has a host, a colon and a port. The port may have a plus sign and zeros
before its digits, and the server keeps them (`Server.spelled`): so there are many servers with one
host and one port, and only one of them is what `Server.new` makes of these
(`Server.parse_iff_spelled`).

The digits of a port are read like those of any decimal number: all that the zeros before a number
can do is to stand there (`Server.exists_zeros`).
-/

namespace ScatterSearch.Server

variable {cs host port ds : List Char} {n : Nat}

/-! ## The last colon -/

/-- A text is split at the last colon. -/
theorem splitLastColon_append (h : ':' ∉ port) :
    splitLastColon (host ++ ':' :: port) = some (host, port) := by
  have hport : ((host ++ ':' :: port).reverse.takeWhile (· ≠ ':')).reverse = port := by
    rw [List.reverse_append, List.reverse_cons, List.append_assoc, List.takeWhile_append_of_pos]
    · simp
    · exact fun c hc => decide_eq_true (ne_of_mem_of_not_mem (List.mem_reverse.1 hc) h)
  have hlength : host.length + (port.length + 1) - port.length - 1 = host.length := by omega
  simp only [splitLastColon, hport, List.length_append, List.length_cons, hlength, List.take_left]
  rw [if_neg (by omega)]

/-- A text that is split has a colon, and none after it. -/
theorem splitLastColon_eq_some :
    splitLastColon cs = some (host, port) ↔ cs = host ++ ':' :: port ∧ ':' ∉ port := by
  constructor
  · intro h
    by_cases hcolon : ':' ∈ cs
    · obtain ⟨port', host', hsplit, hnot⟩ := List.eq_append_cons_of_mem (List.mem_reverse.2 hcolon)
      have hcs : cs = host'.reverse ++ ':' :: port'.reverse := by
        rw [← List.reverse_reverse cs, hsplit]
        simp
      have hnot : ':' ∉ port'.reverse := by simpa using hnot
      rw [hcs, splitLastColon_append hnot] at h
      obtain ⟨rfl, rfl⟩ := Prod.mk.inj (Option.some.inj h)
      exact ⟨hcs, hnot⟩
    · have hall : (cs.reverse.takeWhile (· ≠ ':')).reverse = cs := by
        rw [List.takeWhile_eq_self_iff.2, List.reverse_reverse]
        exact fun c hc => decide_eq_true (ne_of_mem_of_not_mem (List.mem_reverse.1 hc) hcolon)
      rw [splitLastColon, hall, if_pos rfl] at h
      cases h
  · rintro ⟨rfl, h⟩
    exact splitLastColon_append h

/-! ## Decimal digits -/

theorem isDigit_iff {c : Char} : Json.isDigit c = true ↔ c.isDigit = true := by
  simp [Json.isDigit, Char.isDigit, Char.le_def]

/-- Digits are read as the number that they make up. -/
theorem foldl_digits (ds : List Char) (acc : Nat) :
    ds.foldl (fun n c => n * 10 + Json.digitValue c) acc = Nat.ofDigitChars 10 ds acc := by
  rw [Nat.ofDigitChars]
  congr 1
  funext n c
  rw [Nat.mul_comm]
  rfl

/-- A digit is written as it was read. -/
theorem digitChar_of_isDigit {c : Char} (h : c.isDigit = true) :
    c.toNat - 48 < 10 ∧ (c.toNat - 48).digitChar = c := by
  have hc : 48 ≤ c.toNat ∧ c.toNat ≤ 57 := by
    simpa [Char.isDigit, UInt32.le_iff_toNat_le] using h
  refine ⟨by omega, Char.toNat_inj.1 ?_⟩
  rw [Nat.toNat_digitChar_of_lt_ten (by omega)]
  omega

/-- Digits behind a number that is not zero are digits of a number. -/
theorem toDigits_append (hds : ∀ c ∈ ds, c.isDigit = true) (hn : 0 < n) :
    Nat.toDigits 10 n ++ ds = Nat.toDigits 10 (Nat.ofDigitChars 10 ds n) := by
  induction ds generalizing n with
  | nil => simp
  | cons c ds ih =>
    obtain ⟨hc, hds⟩ := List.forall_mem_cons.1 hds
    obtain ⟨hlt, hchar⟩ := digitChar_of_isDigit hc
    have hstep : Nat.toDigits 10 n ++ [c] = Nat.toDigits 10 (10 * n + (c.toNat - 48)) := by
      rw [← Nat.toDigits_append_toDigits (by decide) hn hlt, Nat.toDigits_of_lt_base hlt, hchar]
    calc Nat.toDigits 10 n ++ c :: ds
        = Nat.toDigits 10 (10 * n + (c.toNat - 48)) ++ ds := by
          rw [← hstep, List.append_assoc, List.singleton_append]
      _ = Nat.toDigits 10 (Nat.ofDigitChars 10 (c :: ds) n) := by
          rw [ih hds (by omega), Nat.ofDigitChars_cons]
          rfl

/-- Any digits are those of their number, with zeros before them. -/
theorem exists_zeros (hds : ∀ c ∈ ds, c.isDigit = true) (hne : ds ≠ []) :
    ∃ zeros, ds = List.replicate zeros '0' ++ Nat.toDigits 10 (Nat.ofDigitChars 10 ds 0) := by
  induction ds with
  | nil => exact absurd rfl hne
  | cons c ds ih =>
    obtain ⟨hc, hrest⟩ := List.forall_mem_cons.1 hds
    by_cases hzero : c = '0'
    · subst hzero
      cases ds with
      | nil => exact ⟨0, rfl⟩
      | cons d ds =>
        obtain ⟨zeros, hzeros⟩ := ih hrest (List.cons_ne_nil d ds)
        refine ⟨zeros + 1, ?_⟩
        rw [List.replicate_succ, List.cons_append, Nat.ofDigitChars_cons]
        exact congrArg ('0' :: ·) hzeros
    · obtain ⟨hlt, hchar⟩ := digitChar_of_isDigit hc
      have hpos : 0 < c.toNat - 48 := by
        refine Nat.pos_of_ne_zero fun h => hzero ?_
        rw [← hchar, h]
        rfl
      refine ⟨0, ?_⟩
      rw [Nat.ofDigitChars_cons, Nat.mul_zero, Nat.zero_add]
      change c :: ds = Nat.toDigits 10 (Nat.ofDigitChars 10 ds (c.toNat - 48))
      rw [← toDigits_append hrest hpos, Nat.toDigits_of_lt_base hlt, hchar]
      rfl

/-! ## Ports -/

/-- The digits of a port, with zeros before them. -/
def portDigits (zeros port : Nat) : List Char :=
  List.replicate zeros '0' ++ Nat.toDigits 10 port

/-- A port as it can be written, with a plus sign before the digits or without one. -/
def portChars (plus : Bool) (zeros port : Nat) : List Char :=
  (if plus then ['+'] else []) ++ portDigits zeros port

/-- Reads a port that has no sign. -/
def readDigits? (ds : List Char) : Option Nat :=
  if !ds.isEmpty && ds.all Json.isDigit then
    if Nat.ofDigitChars 10 ds 0 < 65536 then some (Nat.ofDigitChars 10 ds 0) else none
  else none

/-- A port is written in digits. -/
theorem isDigit_of_mem_portDigits {zeros port : Nat} {c : Char} (h : c ∈ portDigits zeros port) :
    c.isDigit = true := by
  rcases List.mem_append.1 h with h | h
  · rw [List.eq_of_mem_replicate h]
    rfl
  · exact Nat.isDigit_of_mem_toDigits (by decide) (by decide) h

/-- Zeros before a port do not count. -/
theorem ofDigitChars_portDigits (zeros port : Nat) :
    Nat.ofDigitChars 10 (portDigits zeros port) 0 = port := by
  rw [portDigits, Nat.ofDigitChars_append, Nat.ofDigitChars_replicate_zero, Nat.mul_zero,
    Nat.ofDigitChars_ten_toDigits]

/-- What is read is a port, with any zeros before it. -/
theorem readDigits?_eq_some :
    readDigits? ds = some n ↔ n < 65536 ∧ ∃ zeros, ds = portDigits zeros n := by
  constructor
  · intro h
    rw [readDigits?] at h
    split at h
    · rename_i hdigits
      rw [Bool.and_eq_true, List.all_eq_true] at hdigits
      obtain ⟨hne, hall⟩ := hdigits
      split at h
      · rename_i hlt
        obtain rfl := Option.some.inj h
        exact ⟨hlt, exists_zeros (fun c hc => isDigit_iff.1 (hall c hc)) (by simpa using hne)⟩
      · cases h
    · cases h
  · rintro ⟨hlt, zeros, rfl⟩
    have hne : (portDigits zeros n).isEmpty = false := by
      simp [portDigits]
    have hall : (portDigits zeros n).all Json.isDigit = true :=
      List.all_eq_true.2 fun c hc => isDigit_iff.2 (isDigit_of_mem_portDigits hc)
    rw [readDigits?, hne, hall, ofDigitChars_portDigits]
    simp [hlt]

/-- One plus sign is passed over. -/
theorem parsePort?_plus (ds : List Char) : parsePort? ('+' :: ds) = readDigits? ds := by
  rw [readDigits?, ← foldl_digits]
  rfl

theorem parsePort?_of_head (h : ∀ rest, cs ≠ '+' :: rest) : parsePort? cs = readDigits? cs := by
  rw [readDigits?, ← foldl_digits, parsePort?]
  exact h

theorem plus_notMem_portDigits {zeros port : Nat} : '+' ∉ portDigits zeros port := fun h => by
  cases isDigit_of_mem_portDigits h

/-- A port is read from its digits, after any zeros and a plus sign. -/
theorem parsePort?_eq_some :
    parsePort? cs = some n ↔ n < 65536 ∧ ∃ plus zeros, cs = portChars plus zeros n := by
  by_cases hplus : ∃ ds, cs = '+' :: ds
  · obtain ⟨ds, rfl⟩ := hplus
    rw [parsePort?_plus, readDigits?_eq_some]
    refine and_congr_right fun _ => ⟨fun ⟨zeros, hds⟩ => ⟨true, zeros, congrArg _ hds⟩, ?_⟩
    rintro ⟨plus, zeros, hds⟩
    cases plus with
    | true => exact ⟨zeros, (List.cons.inj hds).2⟩
    | false => exact absurd (hds ▸ List.mem_cons_self) plus_notMem_portDigits
  · rw [parsePort?_of_head (not_exists.1 hplus), readDigits?_eq_some]
    refine and_congr_right fun _ => ⟨fun ⟨zeros, hds⟩ => ⟨false, zeros, hds⟩, ?_⟩
    rintro ⟨plus, zeros, hds⟩
    cases plus with
    | true => exact absurd ⟨_, hds⟩ hplus
    | false => exact ⟨zeros, hds⟩

/-- No port has a colon. -/
theorem colon_notMem_portChars {plus : Bool} {zeros port : Nat} :
    ':' ∉ portChars plus zeros port := by
  intro h
  rcases List.mem_append.1 h with h | h
  · cases plus
    · cases h
    · cases List.mem_singleton.1 h
  · cases isDigit_of_mem_portDigits h

/-- The plus sign and the zeros can be told from what is written. -/
theorem portChars_inj {plus plus' : Bool} {zeros zeros' port : Nat} :
    portChars plus zeros port = portChars plus' zeros' port ↔ plus = plus' ∧ zeros = zeros' := by
  constructor
  · intro h
    have hcount : ∀ (plus : Bool) zeros,
        (portChars plus zeros port).count '+' = if plus then 1 else 0 := by
      intro plus zeros
      rw [portChars, List.count_append, List.count_eq_zero_of_not_mem plus_notMem_portDigits]
      cases plus <;> rfl
    have hplus : plus = plus' := by
      have heq := congrArg (List.count '+') h
      rw [hcount, hcount] at heq
      revert heq
      cases plus <;> cases plus' <;> decide
    subst hplus
    have hlength := congrArg List.length h
    simp only [portChars, portDigits, List.length_append, List.length_replicate] at hlength
    exact ⟨rfl, by omega⟩
  · rintro ⟨rfl, rfl⟩
    rfl

/-! ## Servers -/

/-- A server as it can be written: a host, a colon, and a port with what may stand before it. -/
def spelled (host : String) (plus : Bool) (zeros port : Nat) : String :=
  host ++ ":" ++ (if plus then "+" else "") ++ String.ofList (List.replicate zeros '0') ++
    Nat.repr port

/-- A server as it is spelled, as characters. -/
theorem toList_spelled (host : String) (plus : Bool) (zeros port : Nat) :
    (spelled host plus zeros port).toList = host.toList ++ ':' :: portChars plus zeros port := by
  cases plus <;> simp [spelled, portChars, portDigits]

/-- What is made of a host and a port has nothing before the digits. -/
theorem new_eq (host : String) (port : Nat) : new host port = ⟨spelled host false 0 port⟩ := by
  refine congrArg Server.mk (String.toList_injective ?_)
  rw [toList_spelled]
  simp [portChars, portDigits]

/-- A server is spelled in one way only, by the sign and the zeros. -/
theorem spelled_inj {host : String} {plus plus' : Bool} {zeros zeros' port : Nat} :
    spelled host plus zeros port = spelled host plus' zeros' port ↔
      plus = plus' ∧ zeros = zeros' := by
  rw [← String.toList_inj, toList_spelled, toList_spelled, List.append_cancel_left_eq,
    List.cons.injEq, portChars_inj]
  exact and_iff_right rfl

theorem splitLastColon_spelled (host : String) (plus : Bool) (zeros port : Nat) :
    splitLastColon (spelled host plus zeros port).toList =
      some (host.toList, portChars plus zeros port) := by
  rw [toList_spelled, splitLastColon_append colon_notMem_portChars]

/-- Every spelling is parsed, and kept as it is. -/
theorem parse?_spelled {host : String} (hhost : host ≠ "") (plus : Bool) (zeros : Nat) {port : Nat}
    (hport : port < 65536) :
    parse? (spelled host plus zeros port) = some ⟨spelled host plus zeros port⟩ := by
  have hread : parsePort? (portChars plus zeros port) = some port :=
    parsePort?_eq_some.2 ⟨hport, plus, zeros, rfl⟩
  rw [parse?, splitLastColon_spelled]
  simp [hread, hhost]

/-- The host is the same in every spelling. -/
theorem host_spelled (host : String) (plus : Bool) (zeros port : Nat) :
    Server.host ⟨spelled host plus zeros port⟩ = host := by
  rw [Server.host, splitLastColon_spelled]
  exact String.ofList_toList

theorem port_spelled (host : String) (plus : Bool) (zeros : Nat) {port : Nat}
    (hport : port < 65536) : Server.port ⟨spelled host plus zeros port⟩ = some port := by
  rw [Server.port, splitLastColon_spelled]
  exact parsePort?_eq_some.2 ⟨hport, plus, zeros, rfl⟩

/-- What is parsed is a spelling of a host and a port. -/
theorem exists_spelled {text : String} {s : Server} (h : parse? text = some s) :
    ∃ host plus zeros port, host ≠ "" ∧ port < 65536 ∧ text = spelled host plus zeros port := by
  rw [parse?] at h
  split at h
  · rename_i host digits hsplit
    split at h
    · cases h
    · rename_i hgood
      rw [not_or] at hgood
      obtain ⟨port, hport⟩ : ∃ port, parsePort? digits = some port :=
        Option.ne_none_iff_exists'.1 (by simpa using hgood.2)
      obtain ⟨hlt, plus, zeros, rfl⟩ := parsePort?_eq_some.1 hport
      refine ⟨String.ofList host, plus, zeros, port, ?_, hlt, ?_⟩
      · simpa using hgood.1
      · refine String.toList_injective ?_
        rw [toList_spelled, String.toList_ofList]
        exact (splitLastColon_eq_some.1 hsplit).1
  · cases h

/-- A text is read as a server just if it has a host and a port, in any of the ways in which the
port can be written. The server is known by the text as it is: it has that host and port, but is the
server made of them only if the port has nothing before its digits, and two texts with one host and
port are one server only if they are written alike. -/
theorem parse_iff_spelled (text : String) :
    ((parse? text).isSome = true ↔ ∃ host plus zeros port, host ≠ "" ∧ port < 65536 ∧
      text = spelled host plus zeros port) ∧
    ∀ host plus zeros port, host ≠ "" → port < 65536 → text = spelled host plus zeros port →
      parse? text = some ⟨text⟩ ∧ Server.host ⟨text⟩ = host ∧ Server.port ⟨text⟩ = some port ∧
      ((⟨text⟩ : Server) = new host port ↔ plus = false ∧ zeros = 0) ∧
      ∀ plus' zeros', parse? (spelled host plus' zeros' port) = parse? text ↔
        plus' = plus ∧ zeros' = zeros := by
  refine ⟨⟨fun h => ?_, ?_⟩, ?_⟩
  · obtain ⟨s, hs⟩ := Option.isSome_iff_exists.1 h
    exact exists_spelled hs
  · rintro ⟨host, plus, zeros, port, hhost, hport, rfl⟩
    rw [parse?_spelled hhost plus zeros hport]
    rfl
  · rintro host plus zeros port hhost hport rfl
    refine ⟨parse?_spelled hhost plus zeros hport, host_spelled .., port_spelled _ _ _ hport,
      ?_, fun plus' zeros' => ?_⟩
    · rw [new_eq, Server.mk.injEq, spelled_inj]
    · rw [parse?_spelled hhost plus' zeros' hport, parse?_spelled hhost plus zeros hport,
        Option.some.injEq, Server.mk.injEq, spelled_inj]

/-- A zero before the port of an address in brackets. -/
theorem bracketed_spelled :
    ("[::1]" ≠ "" ∧ 80 < 65536 ∧ "[::1]:080" = spelled "[::1]" false 1 80) ∧
    parse? "[::1]:080" = some ⟨"[::1]:080"⟩ ∧ Server.host ⟨"[::1]:080"⟩ = "[::1]" ∧
    Server.port ⟨"[::1]:080"⟩ = some 80 ∧ (⟨"[::1]:080"⟩ : Server) ≠ new "[::1]" 80 ∧
    parse? "[::1]:80" ≠ parse? "[::1]:080" := by
  have htext : "[::1]:080" = spelled "[::1]" false 1 80 := by decide +kernel
  have hother : "[::1]:80" = spelled "[::1]" false 0 80 := by decide +kernel
  obtain ⟨hparse, hhost, hport, hnew, hkey⟩ := (parse_iff_spelled "[::1]:080").2 "[::1]" false 1 80
    (by decide) (by decide) htext
  refine ⟨⟨by decide, by decide, htext⟩, hparse, hhost, hport, fun h => ?_, fun h => ?_⟩
  · exact absurd (hnew.1 h).2 (by decide)
  · exact absurd ((hkey false 0).1 (hother ▸ h)).2 (by decide)

/-- A server can be read from a text that is not the name of any server made of a host and a port:
the text has a host and a port, but keeps a zero before the port's digits. -/
theorem reads_uncanonical :
    (parse? "node-a:080" = some ⟨"node-a:080"⟩ ∧ Server.host ⟨"node-a:080"⟩ = "node-a" ∧
      Server.port ⟨"node-a:080"⟩ = some 80 ∧ (⟨"node-a:080"⟩ : Server) ≠ new "node-a" 80) ∧
    ¬ ∀ text, (parse? text).isSome = true ↔
      ∃ host port, host ≠ "" ∧ port < 65536 ∧ text = (new host port).name := by
  have htext : "node-a:080" = spelled "node-a" false 1 80 := by decide +kernel
  have hparse : parse? "node-a:080" = some ⟨"node-a:080"⟩ :=
    htext ▸ parse?_spelled (by decide) false 1 (by decide)
  refine ⟨⟨hparse, htext ▸ host_spelled .., htext ▸ port_spelled _ _ _ (by decide), ?_⟩,
    fun h => ?_⟩
  · decide +kernel
  · obtain ⟨host, port, -, hlt, hname⟩ := (h "node-a:080").1 (hparse ▸ rfl)
    have hserver : (⟨"node-a:080"⟩ : Server) = ⟨spelled host false 0 port⟩ :=
      (congrArg Server.mk hname).trans (new_eq host port)
    have hhost := congrArg Server.host hserver
    have hport := congrArg Server.port hserver
    rw [htext, host_spelled, host_spelled] at hhost
    rw [htext, port_spelled _ _ _ (by decide), port_spelled _ _ _ hlt] at hport
    obtain rfl := hhost
    obtain rfl := Option.some.inj hport
    rw [htext, Server.mk.injEq, spelled_inj] at hserver
    exact absurd hserver.2 (by decide)

end ScatterSearch.Server
