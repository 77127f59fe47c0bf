import Mathlib.Data.List.TakeWhile
import ScatterSearch.Cluster.SocketAddress

/-!
# The text of an address is read as that address

Of the many notations of an address the canonical one is read back, for every address of four octets
or eight groups in their ranges (`SocketAddress.parse?_text`), and no text stands for anything else
(`SocketAddress.valid_iff_exists_text`).

A reader stops at the first character that it has no use for. So each part of an address is read
with what stands behind it in view:

* a number is read up to a character that is no digit of it (`readNumber_toDigits`);
* groups are read up to a double colon, a zone or the closing bracket (`Ends`), and none of them is
  taken for the first of four octets, since no point follows its digits (`readOctets_group`);
* the double colon stands for zeros because the longest run of zeros is a run of zeros
  (`isZeros_longestZeros`), and for as many as are missing to eight groups.
-/

namespace ScatterSearch.SocketAddress

/-- An address of its family: so many octets or groups, each in its range, and so are zone and
port. -/
def Valid : SocketAddress → Prop
  | .v4 octets port => octets.length = 4 ∧ (∀ o ∈ octets, o < 256) ∧ port < 65536
  | .v6 groups scope port =>
    groups.length = 8 ∧ (∀ g ∈ groups, g < 65536) ∧ scope < UInt32.size ∧ port < 65536

variable {base bound n d : Nat} {digits : Option Nat} {zeros : Bool} {cs rest : List Char}

/-! ## Numbers -/

/-- A digit that was written is read as it was. -/
theorem digit?_digitChar (hbase : base ≤ 16) (hd : d < base) :
    digit? base d.digitChar = some d := by
  have hall : ∀ d < 16, Json.hexValue? d.digitChar = some d := by decide
  rw [digit?, hall d (by omega), Option.filter_some, if_pos (decide_eq_true hd)]

/-- A number is written in digits. -/
theorem isSome_digit?_of_mem_toDigits (hone : 1 < base) (hbase : base ≤ 16) :
    ∀ c ∈ Nat.toDigits base n, (digit? base c).isSome = true := by
  induction n using Nat.strongRecOn with
  | ind n ih =>
    intro c hc
    rcases Nat.lt_or_ge n base with hn | hn
    · rw [Nat.toDigits_of_lt_base hn, List.mem_singleton] at hc
      rw [hc, digit?_digitChar hbase hn]
      rfl
    · rw [Nat.toDigits_of_base_le hone hn, List.mem_append, List.mem_singleton] at hc
      rcases hc with hc | rfl
      · exact ih (n / base) (Nat.div_lt_self (by omega) hone) c hc
      · rw [digit?_digitChar hbase (Nat.mod_lt _ (by omega))]
        rfl

/-- Its digits make the number up again. -/
theorem foldl_toDigits (hone : 1 < base) (hbase : base ≤ 16) (n : Nat) :
    (Nat.toDigits base n).foldl (fun n c => n * base + (digit? base c).getD 0) 0 = n := by
  induction n using Nat.strongRecOn with
  | ind n ih =>
    rcases Nat.lt_or_ge n base with hn | hn
    · rw [Nat.toDigits_of_lt_base hn, List.foldl_cons, digit?_digitChar hbase hn]
      simp
    · rw [Nat.toDigits_of_base_le hone hn, List.foldl_append,
        ih (n / base) (Nat.div_lt_self (by omega) hone), List.foldl_cons,
        digit?_digitChar hbase (Nat.mod_lt _ (by omega))]
      exact Nat.div_add_mod' n base

/-- A number that is not zero has no zero before it. -/
theorem head?_toDigits (hone : 1 < base) (hbase : base ≤ 16) (hn : n ≠ 0) :
    (Nat.toDigits base n).head? ≠ some '0' := by
  induction n using Nat.strongRecOn with
  | ind n ih =>
    rcases Nat.lt_or_ge n base with hlt | hge
    · rw [Nat.toDigits_of_lt_base hlt, List.head?_cons, ne_eq, Option.some_inj]
      intro hchar
      have hread := digit?_digitChar hbase hlt
      rw [hchar] at hread
      have hzero : digit? base '0' = some 0 := digit?_digitChar (d := 0) hbase (by omega)
      rw [hzero] at hread
      exact hn (Option.some.inj hread).symm
    · have hfirst := ih (n / base) (Nat.div_lt_self (by omega) hone)
        (Nat.ne_of_gt (Nat.div_pos hge (by omega)))
      obtain ⟨c, cs, hcs⟩ : ∃ c cs, Nat.toDigits base (n / base) = c :: cs :=
        List.exists_cons_of_ne_nil Nat.toDigits_ne_nil
      rw [Nat.toDigits_of_base_le hone hge, hcs, List.cons_append, List.head?_cons]
      rwa [hcs, List.head?_cons] at hfirst

/-- The digits end where the number does. -/
theorem takeWhile_digits (hone : 1 < base) (hbase : base ≤ 16)
    (hrest : ∀ c ∈ rest.head?, digit? base c = none) :
    (Nat.toDigits base n ++ rest).takeWhile (fun c => (digit? base c).isSome) =
      Nat.toDigits base n := by
  rw [List.takeWhile_append_of_pos (isSome_digit?_of_mem_toDigits hone hbase)]
  cases rest with
  | nil => simp
  | cons c rest => simp [hrest c rfl]

/-- A number is read up to a character that is no digit of it. -/
theorem readNumber_toDigits (hone : 1 < base) (hbase : base ≤ 16) (hn : n < bound)
    (hdigits : ∀ limit ∈ digits, (Nat.toDigits base n).length ≤ limit)
    (hrest : ∀ c ∈ rest.head?, digit? base c = none) :
    readNumber base bound digits zeros (Nat.toDigits base n ++ rest) = some (n, rest) := by
  have hfits : digits.any (· < (Nat.toDigits base n).length) = false := by
    cases digits with
    | none => rfl
    | some limit => simpa using hdigits limit rfl
  have hzeros : ¬ ((Nat.toDigits base n).head? = some '0' ∧ 1 < (Nat.toDigits base n).length) := by
    rintro ⟨hhead, hlength⟩
    refine head?_toDigits hone hbase (fun hzero => ?_) hhead
    rw [hzero] at hlength
    simp at hlength
  simp only [readNumber, takeWhile_digits hone hbase hrest, foldl_toDigits hone hbase, hfits,
    List.drop_left]
  rw [if_neg (by simp [hn]), if_neg (by simpa using fun _ => not_and.1 hzeros)]

/-- There is no number where there is no digit. -/
theorem readNumber_eq_none (h : ∀ c ∈ cs.head?, digit? base c = none) :
    readNumber base bound digits zeros cs = none := by
  have hnil : cs.takeWhile (fun c => (digit? base c).isSome) = [] := by
    cases cs with
    | nil => rfl
    | cons c cs => simp [h c rfl]
  simp [readNumber, hnil]

/-! ## Octets -/

theorem readChar_cons (c : Char) (cs : List Char) : readChar c (c :: cs) = some cs := if_pos rfl

/-- Another character is not read. -/
theorem readChar_eq_none {c : Char} (h : cs.head? ≠ some c) : readChar c cs = none := by
  cases cs with
  | nil => rfl
  | cons d cs => exact if_neg fun heq => h (congrArg some heq)

/-- The characters of four octets. -/
def octetChars (a b c d : Nat) : List Char :=
  Nat.toDigits 10 a ++ '.' :: (Nat.toDigits 10 b ++ '.' :: (Nat.toDigits 10 c ++
    '.' :: Nat.toDigits 10 d))

/-- The text of four octets, as characters. -/
theorem toList_octetsText (a b c d : Nat) :
    (octetsText [a, b, c, d]).toList = octetChars a b c d := by
  simp [octetsText, octetChars, String.intercalate_cons_cons]

/-- Four octets are read as they were written. -/
theorem readOctets_octetChars {a b c d : Nat} (h : ∀ n ∈ [a, b, c, d], n < 256)
    (hrest : ∀ c ∈ rest.head?, digit? 10 c = none) :
    readOctets (octetChars a b c d ++ rest) = some ([a, b, c, d], rest) := by
  have hread : ∀ n ∈ [a, b, c, d], ∀ {rest : List Char}, (∀ c ∈ rest.head?, digit? 10 c = none) →
      readNumber 10 256 (some 3) false (Nat.toDigits 10 n ++ rest) = some (n, rest) := by
    intro n hn rest hrest
    refine readNumber_toDigits (by decide) (by decide) (h n hn) (fun limit hlimit => ?_) hrest
    obtain rfl := Option.some.inj hlimit
    exact (Nat.length_toDigits_le_iff (by decide) (by decide)).2 (Nat.lt_trans (h n hn) (by decide))
  have hpoint : ∀ {rest : List Char}, ∀ c ∈ ('.' :: rest).head?, digit? 10 c = none := by
    rintro rest c hc
    obtain rfl := Option.some.inj hc
    rfl
  simp only [readOctets, octetChars, List.append_assoc, List.cons_append,
    hread a (by simp) hpoint, hread b (by simp) hpoint, hread c (by simp) hpoint,
    hread d (by simp) hrest, readChar_cons, Option.bind_eq_bind, Option.bind_some]
  rfl

/-- What follows the digits a number may begin with is what is left of a number that was read. -/
theorem readNumber_snd {n : Nat} (h : readNumber base bound digits zeros cs = some (n, rest)) :
    rest = cs.dropWhile fun c => (digit? base c).isSome := by
  simp only [readNumber] at h
  split at h
  · cases h
  · split at h
    · cases h
    · obtain ⟨-, rfl⟩ := Prod.mk.inj (Option.some.inj h)
      exact (congrArg (List.drop _) List.takeWhile_append_dropWhile.symm).trans List.drop_left

/-- Octets have a point after the first one. -/
theorem readOctets_eq_none
    (h : (cs.dropWhile fun c => (digit? 10 c).isSome).head? ≠ some '.') :
    readOctets cs = none := by
  rw [readOctets]
  cases hread : readNumber 10 256 (some 3) false cs with
  | none => rfl
  | some read =>
    obtain ⟨n, rest⟩ := read
    have hpoint : readChar '.' rest = none := readChar_eq_none (readNumber_snd hread ▸ h)
    simp [hpoint]

/-! ## Groups -/

/-- Groups with a colon before each. -/
def colonGroups (groups : List Nat) : List Char :=
  groups.flatMap fun g => ':' :: Nat.toDigits 16 g

/-- Groups with colons between them. -/
def groupChars : List Nat → List Char
  | [] => []
  | g :: groups => Nat.toDigits 16 g ++ colonGroups groups

/-- The text of some groups, as characters. -/
theorem toList_groupsText (groups : List Nat) : (groupsText groups).toList = groupChars groups := by
  have hjoin : ∀ groups : List Nat, (groupsText groups).toList =
      [':'].intercalate (groups.map fun g => Nat.toDigits 16 g) := by
    intro groups
    rw [groupsText, String.toList_intercalate, List.map_map]
    exact congrArg _ (List.map_congr_left fun g _ => String.toList_ofList)
  induction groups with
  | nil => rfl
  | cons g groups ih =>
    rw [hjoin] at ih ⊢
    cases groups with
    | nil => simp [groupChars, colonGroups]
    | cons g' groups =>
      rw [List.map_cons, List.map_cons, List.intercalate_cons_cons, ← List.map_cons, ih]
      simp [groupChars, colonGroups]

/-- Neither a digit nor a point comes next. -/
def Breaks (rest : List Char) : Prop := ∀ c ∈ rest.head?, Json.hexValue? c = none ∧ c ≠ '.'

/-- The address is over: its zone or the closing bracket comes next. -/
def Closes (rest : List Char) : Prop := ∃ c more, rest = c :: more ∧ (c = '%' ∨ c = ']')

/-- No group comes next: there is a double colon, or the address is over. -/
def Ends (rest : List Char) : Prop := (∃ more, rest = ':' :: ':' :: more) ∨ Closes rest

theorem digit?_eq_none {c : Char} (h : Json.hexValue? c = none) : digit? base c = none := by
  rw [digit?, h]
  rfl

theorem breaks_cons {c : Char} (h : c ∈ [':', '%', ']']) : Breaks (c :: cs) := by
  intro d hd
  obtain rfl := Option.some.inj hd
  simp only [List.mem_cons, List.not_mem_nil, or_false] at h
  rcases h with rfl | rfl | rfl <;> decide

/-- What breaks a number off is no digit. -/
theorem Breaks.not_digit (h : Breaks rest) : ∀ c ∈ rest.head?, digit? base c = none :=
  fun c hc => digit?_eq_none (h c hc).1

/-- What closes an address ends its groups. -/
theorem Closes.ends (h : Closes rest) : Ends rest := .inr h

/-- What ends the groups breaks a number off. -/
theorem Ends.breaks (h : Ends rest) : Breaks rest := by
  obtain ⟨more, rfl⟩ | ⟨c, more, rfl, rfl | rfl⟩ := h <;> exact breaks_cons (by decide)

/-- No octets are where a number is broken off. -/
theorem readOctets_of_breaks (h : Breaks rest) : readOctets rest = none := by
  rw [readOctets, readNumber_eq_none h.not_digit]
  rfl

/-- A group is not taken for octets. -/
theorem readOctets_group (g : Nat) (h : Breaks rest) :
    readOctets (Nat.toDigits 16 g ++ rest) = none := by
  have hdigits : ∀ c ∈ Nat.toDigits 16 g, c ≠ '.' := by
    rintro c hc rfl
    have hdigit := isSome_digit?_of_mem_toDigits (by decide) (by decide) _ hc
    cases hdigit
  refine readOctets_eq_none ?_
  generalize Nat.toDigits 16 g = ds at hdigits
  induction ds with
  | nil =>
    cases rest with
    | nil => simp
    | cons c rest =>
      obtain ⟨hc, hpoint⟩ := h c rfl
      simpa [digit?_eq_none hc] using hpoint
  | cons c ds ih =>
    obtain ⟨hc, hds⟩ := List.forall_mem_cons.1 hdigits
    rw [List.cons_append, List.dropWhile_cons]
    split
    · exact ih hds
    · simpa using hc

/-- After the first group a colon is passed over. -/
theorem separator_colon (cs : List Char) : separator false (':' :: cs) = some cs :=
  readChar_cons ':' cs

/-- One group is read, and then those after it. -/
theorem readGroups_group {first : Bool} {limit g : Nat}
    (hcs : separator first cs = some (Nat.toDigits 16 g ++ rest)) (hg : g < 65536)
    (h : Breaks rest) :
    readGroups first (limit + 1) cs =
      (g :: (readGroups false limit rest).1, (readGroups false limit rest).2) := by
  have hread : readNumber 16 65536 (some 4) true (Nat.toDigits 16 g ++ rest) = some (g, rest) := by
    refine readNumber_toDigits (by decide) (by decide) hg (fun limit hlimit => ?_) h.not_digit
    obtain rfl := Option.some.inj hlimit
    exact (Nat.length_toDigits_le_iff (by decide) (by decide)).2 hg
  simp only [readGroups, hcs, Option.bind_some, readOctets_group g h, hread, ite_self]

/-- Nothing is read where no group comes next. -/
theorem readGroups_of_ends (first : Bool) (limit : Nat) (h : Ends rest) :
    readGroups first limit rest = ([], false, rest) := by
  have hnone : ∀ text, separator first rest = some text → Breaks text := by
    intro text htext
    cases first with
    | true =>
      obtain rfl := Option.some.inj htext
      exact h.breaks
    | false =>
      obtain ⟨more, rfl⟩ | ⟨c, more, rfl, hc⟩ := h
      · rw [separator_colon] at htext
        obtain rfl := Option.some.inj htext
        exact breaks_cons (by decide)
      · have hcolon : separator false (c :: more) = none := by
          change readChar ':' (c :: more) = none
          refine readChar_eq_none fun heq => ?_
          obtain rfl := Option.some.inj heq
          exact absurd hc (by decide)
        rw [hcolon] at htext
        cases htext
  cases limit with
  | zero => rfl
  | succ limit =>
    have hoctets : (separator first rest).bind readOctets = none :=
      Option.bind_eq_none_iff.2 fun text htext => readOctets_of_breaks (hnone text htext)
    have hnumber : (separator first rest).bind (readNumber 16 65536 (some 4) true) = none :=
      Option.bind_eq_none_iff.2 fun text htext => readNumber_eq_none (hnone text htext).not_digit
    simp only [readGroups, hoctets, hnumber, ite_self]

/-- Groups that follow a colon break a number off. -/
theorem breaks_colonGroups (groups : List Nat) (h : Ends rest) :
    Breaks (colonGroups groups ++ rest) := by
  cases groups with
  | nil => exact h.breaks
  | cons g groups => exact breaks_cons (by decide)

/-- Groups that follow others are read as they were written. -/
theorem readGroups_colonGroups {groups : List Nat} {limit : Nat} (hlimit : groups.length ≤ limit)
    (hgroups : ∀ g ∈ groups, g < 65536) (h : Ends rest) :
    readGroups false limit (colonGroups groups ++ rest) = (groups, false, rest) := by
  induction groups generalizing limit with
  | nil => exact readGroups_of_ends false limit h
  | cons g groups ih =>
    obtain ⟨hg, hgroups⟩ := List.forall_mem_cons.1 hgroups
    cases limit with
    | zero => cases hlimit
    | succ limit =>
      have hcs : separator false (colonGroups (g :: groups) ++ rest) =
          some (Nat.toDigits 16 g ++ (colonGroups groups ++ rest)) := by
        rw [← List.append_assoc]
        exact separator_colon _
      rw [readGroups_group hcs hg (breaks_colonGroups groups h),
        ih (Nat.le_of_succ_le_succ hlimit) hgroups]

/-- Groups are read up to where they end. -/
theorem readGroups_groupChars {groups : List Nat} {limit : Nat} (hlimit : groups.length ≤ limit)
    (hgroups : ∀ g ∈ groups, g < 65536) (h : Ends rest) :
    readGroups true limit (groupChars groups ++ rest) = (groups, false, rest) := by
  cases groups with
  | nil => exact readGroups_of_ends true limit h
  | cons g groups =>
    obtain ⟨hg, hgroups⟩ := List.forall_mem_cons.1 hgroups
    cases limit with
    | zero => cases hlimit
    | succ limit =>
      have hcs : separator true (groupChars (g :: groups) ++ rest) =
          some (Nat.toDigits 16 g ++ (colonGroups groups ++ rest)) := by
        rw [← List.append_assoc]
        rfl
      rw [readGroups_group hcs hg (breaks_colonGroups groups h),
        readGroups_colonGroups (Nat.le_of_succ_le_succ hlimit) hgroups h]

/-! ## Runs of zeros -/

/-- Nothing but zeros: so many groups from a place on. -/
def IsZeros (groups : List Nat) (run : Nat × Nat) : Prop :=
  ∃ before after, groups = before ++ List.replicate run.2 0 ++ after ∧ before.length = run.1

/-- The open run grows by a zero that follows it, or begins with it. -/
theorem exists_grown {before : List Nat} {here : Nat × Nat}
    (hhere : ∃ start, before = start ++ List.replicate here.2 0 ∧
      (here.2 ≠ 0 → start.length = here.1)) :
    ∃ start, before ++ [0] = start ++ List.replicate
        (if here.2 = 0 then (before.length, 1) else (here.1, here.2 + 1)).2 0 ∧
      start.length = (if here.2 = 0 then (before.length, 1) else (here.1, here.2 + 1)).1 := by
  obtain ⟨start, hstart, hplace⟩ := hhere
  refine ⟨start, ?_, ?_⟩
  · have hsize : (if here.2 = 0 then (before.length, 1) else (here.1, here.2 + 1)).2 =
        here.2 + 1 := by
      split
      · rename_i hnone
        rw [hnone]
      · rfl
    rw [hsize, hstart, List.replicate_succ', List.append_assoc]
  · split
    · rename_i hnone
      rw [hstart, hnone]
      simp
    · rename_i hsome
      exact hplace hsome

/-- The run that is found is one of zeros. By induction on the groups that are left: the best run so
far is one, and the open run is one that ends where they begin. -/
theorem isZeros_longestZeros {before left : List Nat} {here best : Nat × Nat}
    (hbest : IsZeros (before ++ left) best)
    (hhere : ∃ start, before = start ++ List.replicate here.2 0 ∧
      (here.2 ≠ 0 → start.length = here.1)) :
    IsZeros (before ++ left) (longestZeros before.length here best left) := by
  induction left generalizing before here best with
  | nil => exact hbest
  | cons g left ih =>
    have hsplit : before ++ g :: left = (before ++ [g]) ++ left := List.append_cons ..
    have hlength : before.length + 1 = (before ++ [g]).length := by simp
    rw [longestZeros]
    split
    · rename_i hzero
      subst hzero
      obtain ⟨start, hrun, hplace⟩ := exists_grown hhere
      generalize (if here.2 = 0 then (before.length, 1) else (here.1, here.2 + 1)) = grown
        at hrun hplace
      have hnow : IsZeros ((before ++ [0]) ++ left) grown := ⟨start, left, by rw [hrun], hplace⟩
      rw [hsplit, hlength]
      refine ih ?_ ⟨start, hrun, fun _ => hplace⟩
      split
      · exact hnow
      · rwa [hsplit] at hbest
    · rw [hsplit, hlength]
      exact ih (hsplit ▸ hbest) ⟨before ++ [g], by simp, fun h => absurd rfl h⟩

/-! ## Addresses -/

/-- The groups before a double colon and those after it. -/
theorem readV6_of_readGroups {head tail : List Nat} {isV4 : Bool} {more : List Char}
    (hhead : readGroups true 8 cs = (head, false, ':' :: ':' :: more)) (hlength : head.length ≠ 8)
    (htail : readGroups true (7 - head.length) more = (tail, isV4, rest)) :
    readV6 cs =
      some (head ++ List.replicate (8 - head.length - tail.length) 0 ++ tail, rest) := by
  simp only [readV6, hhead, hlength, if_false, readChar_cons, Option.bind_eq_bind, Option.bind_some,
    htail, Bool.false_eq_true]
  rfl

/-- Octets inside an address of groups. -/
theorem readV6_mapped {a b : Nat} (ha : a < 65536) (hb : b < 65536) (h : Closes rest) :
    readV6 ((v6Text [0, 0, 0, 0, 0, 0xffff, a, b]).toList ++ rest) =
      some ([0, 0, 0, 0, 0, 0xffff, a, b], rest) := by
  have hoctets : readOctets (octetChars (a / 256) (a % 256) (b / 256) (b % 256) ++ rest) =
      some ([a / 256, a % 256, b / 256, b % 256], rest) := by
    refine readOctets_octetChars ?_ h.ends.breaks.not_digit
    simp only [List.forall_mem_cons, List.not_mem_nil, false_imp_iff, implies_true, and_true]
    omega
  have htext : (v6Text [0, 0, 0, 0, 0, 0xffff, a, b]).toList ++ rest =
      ':' :: ':' :: (Nat.toDigits 16 0xffff ++
        ':' :: (octetChars (a / 256) (a % 256) (b / 256) (b % 256) ++ rest)) := by
    rw [v6Text, String.toList_append, toList_octetsText]
    rfl
  generalize octetChars (a / 256) (a % 256) (b / 256) (b % 256) ++ rest = octets
    at hoctets htext
  have hlast : readGroups false 6 (':' :: octets) = ([a, b], true, rest) := by
    rw [readGroups, separator_colon, if_neg (by decide), Option.bind_some, hoctets]
    simp only [Nat.div_add_mod']
  have htail : readGroups true 7 (Nat.toDigits 16 0xffff ++ ':' :: octets) =
      ([0xffff, a, b], true, rest) := by
    have hcs : separator true (Nat.toDigits 16 0xffff ++ ':' :: octets) =
        some (Nat.toDigits 16 0xffff ++ ':' :: octets) := rfl
    rw [readGroups_group hcs (by decide) (breaks_cons (by decide)), hlast]
  have hhead : readGroups true 8 (':' :: ':' :: (Nat.toDigits 16 0xffff ++ ':' :: octets)) =
      ([], false, ':' :: ':' :: (Nat.toDigits 16 0xffff ++ ':' :: octets)) :=
    readGroups_of_ends true 8 (.inl ⟨_, rfl⟩)
  rw [htext, readV6_of_readGroups hhead (by decide) htail]
  rfl

/-- Groups around their longest run of zeros, or all of them. -/
theorem readV6_grouped {groups : List Nat} (hlength : groups.length = 8)
    (hgroups : ∀ g ∈ groups, g < 65536)
    (hmapped : ∀ a b, groups ≠ [0, 0, 0, 0, 0, 0xffff, a, b]) (h : Closes rest) :
    readV6 ((v6Text groups).toList ++ rest) = some (groups, rest) := by
  have hzeros : IsZeros ([] ++ groups) (longestZeros ([] : List Nat).length (0, 0) (0, 0) groups) :=
    isZeros_longestZeros ⟨[], groups, rfl, rfl⟩ ⟨[], rfl, fun _ => rfl⟩
  obtain ⟨before, after, hsplit, hplace⟩ := hzeros
  rw [v6Text]
  · change groups = _ at hsplit
    generalize longestZeros 0 (0, 0) (0, 0) groups = run at hsplit hplace
    obtain ⟨start, length⟩ := run
    dsimp only at hsplit hplace ⊢
    split
    · have htake : groups.take start = before := by
        rw [hsplit, List.append_assoc, ← hplace, List.take_left]
      have hdrop : groups.drop (start + length) = after := by
        rw [hsplit, ← hplace, List.drop_left']
        simp
      have hsum : before.length + length + after.length = 8 := by
        rw [← hlength, hsplit]
        simp [Nat.add_assoc]
      have hbefore : ∀ g ∈ before, g < 65536 := fun g hg => hgroups g (by simp [hsplit, hg])
      have hafter : ∀ g ∈ after, g < 65536 := fun g hg => hgroups g (by simp [hsplit, hg])
      have hhead : readGroups true 8
          (groupChars before ++ ':' :: ':' :: (groupChars after ++ rest)) =
            (before, false, ':' :: ':' :: (groupChars after ++ rest)) :=
        readGroups_groupChars (by omega) hbefore (.inl ⟨_, rfl⟩)
      have htail : readGroups true (7 - before.length) (groupChars after ++ rest) =
          (after, false, rest) := readGroups_groupChars (by omega) hafter h.ends
      have hread := readV6_of_readGroups hhead (by omega) htail
      rw [show 8 - before.length - after.length = length by omega, ← hsplit] at hread
      rw [htake, hdrop]
      simpa [toList_groupsText] using hread
    · rw [toList_groupsText, readV6, readGroups_groupChars (by omega) hgroups h.ends]
      simp [hlength]
  · exact hmapped

/-- Eight groups are read as they were written, shortened or not. -/
theorem readV6_v6Text {groups : List Nat} (hlength : groups.length = 8)
    (hgroups : ∀ g ∈ groups, g < 65536) (h : Closes rest) :
    readV6 ((v6Text groups).toList ++ rest) = some (groups, rest) := by
  by_cases hmapped : ∃ a b, groups = [0, 0, 0, 0, 0, 0xffff, a, b]
  · obtain ⟨a, b, rfl⟩ := hmapped
    exact readV6_mapped (hgroups a (by simp)) (hgroups b (by simp)) h
  · exact readV6_grouped hlength hgroups (fun a b heq => hmapped ⟨a, b, heq⟩) h

/-- A port is read as it was written. -/
theorem readPort_repr {port : Nat} (hport : port < 65536) :
    readPort (':' :: Nat.toDigits 10 port) = some (port, []) := by
  have hread : readNumber 10 65536 none true (Nat.toDigits 10 port ++ []) = some (port, []) :=
    readNumber_toDigits (by decide) (by decide) hport (by simp) (by simp)
  rwa [List.append_nil] at hread

/-- The characters of a zone. -/
def zoneChars (scope : Nat) : List Char := if scope = 0 then [] else '%' :: Nat.toDigits 10 scope

/-- A scope is read as it was written, and none as zero. -/
theorem readScope_zoneChars {scope : Nat} (hscope : scope < UInt32.size) :
    readScope (zoneChars scope ++ ']' :: rest) = (scope, ']' :: rest) := by
  rw [zoneChars]
  split
  · rename_i hzero
    rw [hzero]
    rfl
  · have hread : readNumber 10 UInt32.size none true (Nat.toDigits 10 scope ++ ']' :: rest) =
        some (scope, ']' :: rest) :=
      readNumber_toDigits (by decide) (by decide) hscope (by simp)
        (breaks_cons (by decide)).not_digit
    rw [readScope, List.cons_append, readChar_cons, Option.bind_some, hread]
    rfl

/-- The text of an address of four octets is read as that address. -/
theorem parse?_v4 {octets : List Nat} {port : Nat} (h : (v4 octets port).Valid) :
    parse? (v4 octets port).text = some (v4 octets port) := by
  obtain ⟨hlength, hoctets, hport⟩ := h
  obtain ⟨a, b, c, d, rfl⟩ : ∃ a b c d, octets = [a, b, c, d] := by
    match octets, hlength with
    | [a, b, c, d], _ => exact ⟨a, b, c, d, rfl⟩
  have htext : (v4 [a, b, c, d] port).text.toList =
      octetChars a b c d ++ ':' :: Nat.toDigits 10 port := by
    rw [text, String.toList_append, String.toList_append, toList_octetsText, Nat.toList_repr]
    simp
  have hread : readOctets (octetChars a b c d ++ ':' :: Nat.toDigits 10 port) =
      some ([a, b, c, d], ':' :: Nat.toDigits 10 port) :=
    readOctets_octetChars hoctets (breaks_cons (by decide)).not_digit
  simp only [parse?, htext, parseV4?, hread, Option.bind_eq_bind, Option.bind_some,
    readPort_repr hport]
  rfl

/-- The text of an address of eight groups is read as that address. -/
theorem parse?_v6 {groups : List Nat} {scope port : Nat} (h : (v6 groups scope port).Valid) :
    parse? (v6 groups scope port).text = some (v6 groups scope port) := by
  obtain ⟨hlength, hgroups, hscope, hport⟩ := h
  have htext : (v6 groups scope port).text.toList = '[' :: ((v6Text groups).toList ++
      (zoneChars scope ++ ']' :: ':' :: Nat.toDigits 10 port)) := by
    simp only [text, String.toList_append, Nat.toList_repr, zoneChars]
    split <;> simp
  have hcloses : Closes (zoneChars scope ++ ']' :: ':' :: Nat.toDigits 10 port) := by
    rw [zoneChars]
    split
    · exact ⟨']', _, rfl, .inr rfl⟩
    · exact ⟨'%', _, rfl, .inl rfl⟩
  have hnot : parseV4? ('[' :: ((v6Text groups).toList ++
      (zoneChars scope ++ ']' :: ':' :: Nat.toDigits 10 port))) = none := by
    rw [parseV4?, readOctets, readNumber_eq_none]
    · rfl
    · rintro c hc
      obtain rfl := Option.some.inj hc
      rfl
  rw [parse?, htext, hnot, Option.orElse_none, parseV6?, readChar_cons, Option.bind_eq_bind,
    Option.bind_some, readV6_v6Text hlength hgroups hcloses]
  simp only [Option.bind_eq_bind, Option.bind_some, readScope_zoneChars hscope, readChar_cons,
    readPort_repr hport]
  rfl

/-- What is written is read back, in both families. -/
theorem parse?_text {a : SocketAddress} (h : a.Valid) : parse? a.text = some a := by
  cases a with
  | v4 octets port => exact parse?_v4 h
  | v6 groups scope port => exact parse?_v6 h

/-! ## What is read -/

/-- A number that is read is within its bound. -/
theorem readNumber_lt (h : readNumber base bound digits zeros cs = some (n, rest)) : n < bound := by
  simp only [readNumber] at h
  split at h
  · cases h
  · rename_i hgood
    simp only [not_or, Nat.not_le] at hgood
    split at h
    · cases h
    · obtain ⟨rfl, -⟩ := Prod.mk.inj (Option.some.inj h)
      exact hgood.2.1

/-- What is read as octets are four of them. -/
theorem readOctets_lt {octets : List Nat} (h : readOctets cs = some (octets, rest)) :
    octets.length = 4 ∧ ∀ o ∈ octets, o < 256 := by
  simp only [readOctets, Option.bind_eq_bind, Option.bind_eq_some_iff, Prod.exists] at h
  obtain ⟨a, _, ha, _, -, b, _, hb, _, -, c, _, hc, _, -, d, _, hd, heq⟩ := h
  obtain ⟨rfl, -⟩ := Prod.mk.inj (Option.some.inj heq)
  refine ⟨rfl, ?_⟩
  simp only [List.forall_mem_cons, List.not_mem_nil, false_imp_iff, implies_true, and_true]
  exact ⟨readNumber_lt ha, readNumber_lt hb, readNumber_lt hc, readNumber_lt hd⟩

/-- What is read as groups are groups, and no more than asked for. -/
theorem readGroups_lt (first : Bool) (limit : Nat) (cs : List Char) :
    (readGroups first limit cs).1.length ≤ limit ∧
      ∀ g ∈ (readGroups first limit cs).1, g < 65536 := by
  induction limit generalizing first cs with
  | zero => exact ⟨Nat.le_refl _, fun g hg => by cases hg⟩
  | succ limit ih =>
    rw [readGroups]
    split
    · rename_i a b c d rest hoctets
      split at hoctets
      · cases hoctets
      · rename_i hlimit
        obtain ⟨text, -, htext⟩ := Option.bind_eq_some_iff.1 hoctets
        obtain ⟨-, hlt⟩ := readOctets_lt htext
        simp only [List.forall_mem_cons, List.not_mem_nil, false_imp_iff, implies_true, and_true]
          at hlt ⊢
        simp only [List.length_cons, List.length_nil]
        omega
    · split
      · rename_i g rest hnumber
        obtain ⟨text, -, htext⟩ := Option.bind_eq_some_iff.1 hnumber
        obtain ⟨hlength, hlt⟩ := ih false rest
        exact ⟨Nat.succ_le_succ hlength, List.forall_mem_cons.2 ⟨readNumber_lt htext, hlt⟩⟩
      · exact ⟨Nat.zero_le _, fun g hg => by cases hg⟩

/-- What is read as an address of groups has eight of them. -/
theorem readV6_lt {groups : List Nat} (h : readV6 cs = some (groups, rest)) :
    groups.length = 8 ∧ ∀ g ∈ groups, g < 65536 := by
  obtain ⟨hlength, hlt⟩ := readGroups_lt true 8 cs
  rw [readV6] at h
  generalize readGroups true 8 cs = read at h hlength hlt
  obtain ⟨head, isV4, left⟩ := read
  dsimp only at h hlength hlt
  split at h
  · rename_i hfull
    obtain ⟨rfl, -⟩ := Prod.mk.inj (Option.some.inj h)
    exact ⟨hfull, hlt⟩
  · split at h
    · cases h
    · rename_i hshort _
      simp only [Option.bind_eq_bind, Option.bind_eq_some_iff] at h
      obtain ⟨_, -, more, -, heq⟩ := h
      obtain ⟨rfl, -⟩ := Prod.mk.inj (Option.some.inj heq)
      obtain ⟨hlength', hlt'⟩ := readGroups_lt true (7 - head.length) more
      refine ⟨?_, fun g hg => ?_⟩
      · simp only [List.length_append, List.length_replicate]
        omega
      · rcases List.mem_append.1 hg with hg | hg
        · rcases List.mem_append.1 hg with hg | hg
          · exact hlt g hg
          · rw [List.eq_of_mem_replicate hg]
            decide
        · exact hlt' g hg

/-- What is read as a port is one. -/
theorem readPort_lt {port : Nat} (h : readPort cs = some (port, rest)) : port < 65536 := by
  obtain ⟨_, -, hread⟩ := Option.bind_eq_some_iff.1 h
  exact readNumber_lt hread

/-- What is read as a scope is one. -/
theorem readScope_lt (cs : List Char) : (readScope cs).1 < UInt32.size := by
  rw [readScope]
  cases hread : (readChar '%' cs).bind (readNumber 10 UInt32.size none true) with
  | none => exact (by decide : 0 < UInt32.size)
  | some read =>
    obtain ⟨_, -, hnumber⟩ := Option.bind_eq_some_iff.1 hread
    exact readNumber_lt hnumber

/-- What is read as an address of octets is one. -/
theorem valid_of_parseV4? {a : SocketAddress} (h : parseV4? cs = some a) : a.Valid := by
  simp only [parseV4?, Option.bind_eq_bind, Option.bind_eq_some_iff, Prod.exists] at h
  obtain ⟨octets, _, hoctets, port, _, hport, heq⟩ := h
  split at heq
  · obtain rfl := Option.some.inj heq
    exact ⟨(readOctets_lt hoctets).1, (readOctets_lt hoctets).2, readPort_lt hport⟩
  · cases heq

/-- What is read as an address of groups is one. -/
theorem valid_of_parseV6? {a : SocketAddress} (h : parseV6? cs = some a) : a.Valid := by
  simp only [parseV6?, Option.bind_eq_bind, Option.bind_eq_some_iff, Prod.exists] at h
  obtain ⟨_, -, groups, left, hgroups, _, -, port, _, hport, heq⟩ := h
  split at heq
  · obtain rfl := Option.some.inj heq
    exact ⟨(readV6_lt hgroups).1, (readV6_lt hgroups).2, readScope_lt left, readPort_lt hport⟩
  · cases heq

/-- The addresses that texts stand for are those that are in range. -/
theorem valid_iff_exists_text {a : SocketAddress} : a.Valid ↔ ∃ text, parse? text = some a := by
  refine ⟨fun h => ⟨a.text, parse?_text h⟩, ?_⟩
  rintro ⟨text, h⟩
  cases hv4 : parseV4? text.toList with
  | some a' =>
    rw [parse?, hv4] at h
    obtain rfl := Option.some.inj h
    exact valid_of_parseV4? hv4
  | none =>
    rw [parse?, hv4] at h
    exact valid_of_parseV6? h

end ScatterSearch.SocketAddress
