import Mathlib.Algebra.Group.Nat.Defs
import Mathlib.Data.List.Basic
import QueryReport.Document.Json.Printer
import QueryReport.Document.Json.Reader
import QueryReport.Proofs.Decimal.Numeral
import QueryReport.Proofs.Text.Split

/-!
# `QueryReport.Proofs.Document.Json`: written JSON is read as what it was written for

`Tree.asRead` is what a written document should be read as: the same document, where a text and a
key can be nothing else.  `read_print` says that it is, for a document whose numbers are integers of
64 bits (`Tree.integral`).  Of floats nothing is said.

Every reader is stated in front of whatever follows.  A text ends with its quote and an array with
its bracket, but a number ends where something stands that is no part of a number (`EndsNumber`), as
the end of the text, a comma and the closing brackets are.
-/

set_option autoImplicit false

namespace QueryReport.Document

open Decimal

mutual

/-- What a written document is read as. -/
def Tree.asRead : Tree → Node
  | .null => .scalar .null none
  | .bool b => .scalar (.bool b) none
  | .int n => .scalar (.int n) none
  | .float x => .scalar (.float x) none
  | .text s => .ofText s
  | .array items => .array items.asRead
  | .object members => .object members.asRead

def Trees.asRead : Trees → Nodes
  | .nil => .nil
  | .cons t ts => .cons t.asRead ts.asRead

def Members.asRead : Members → NodeMembers
  | .nil => .nil
  | .cons k t ms => .cons (.ofText k) t.asRead ms.asRead

end

mutual

/-- Whether all numbers are integers of 64 bits, with a sign or without one. -/
def Tree.integral : Tree → Bool
  | .int n => -Int.pow 2 63 ≤ n && n < Int.pow 2 64
  | .float _ => false
  | .array items => items.integral
  | .object members => members.integral
  | _ => true

def Trees.integral : Trees → Bool
  | .nil => true
  | .cons t ts => t.integral && ts.integral

def Members.integral : Members → Bool
  | .nil => true
  | .cons _ t ms => t.integral && ms.integral

end

@[simp] theorem Tree.integral_text (s : String) : (Tree.text s).integral = true := rfl

@[simp] theorem Tree.integral_bool (b : Bool) : (Tree.bool b).integral = true := rfl

theorem Tree.integral_int {n : Int} :
    (Tree.int n).integral = true ↔ -Int.pow 2 63 ≤ n ∧ n < Int.pow 2 64 := by
  rw [Tree.integral, Bool.and_eq_true, decide_eq_true_eq, decide_eq_true_eq]

theorem Tree.integral_ofMembers (fields : List (String × Tree)) :
    (Tree.ofMembers fields).integral = fields.all fun entry => entry.2.integral := by
  show (Members.ofList fields).integral = _
  induction fields with
  | nil => rfl
  | cons entry fields ih => rw [Members.ofList, Members.integral, ih, List.all_cons]

theorem Tree.integral_items {α : Type} {encode : α → Tree} {as : List α}
    (h : ∀ a ∈ as, (encode a).integral = true) :
    (Tree.ofItems (as.map encode)).integral = true := by
  show (Trees.ofList (as.map encode)).integral = true
  induction as with
  | nil => rfl
  | cons a as ih =>
      rw [List.forall_mem_cons] at h
      rw [List.map_cons, Trees.ofList, Trees.integral, h.1, ih h.2]
      rfl

theorem Tree.integral_members {α : Type} {encode : α → Tree} {as : List (String × α)}
    (h : ∀ entry ∈ as, (encode entry.2).integral = true) :
    (Tree.ofMembers (as.map fun (k, a) => (k, encode a))).integral = true := by
  rw [Tree.integral_ofMembers, List.all_map]
  exact List.all_eq_true.mpr h

namespace Json

variable {rest : List Char}

/-! ## Strings -/

/-- Reading goes on behind a character, in the form in which the reader has it. -/
theorem readChars_bind (c : Char) (read : Option (Option (List Char) × List Char)) :
    (do let read ← read; some (read.1.map (c :: ·), read.2))
      = read.map fun read => (read.1.map (c :: ·), read.2) := by
  cases read <;> rfl

/-- A control character is read back from its own letter, or from the four digits of its code. -/
theorem readChars_control {c : Char} (hcontrol : c.toNat < 32) (rest : List Char) :
    readChars none (escapedChar c ++ rest)
      = (readChars none rest).map fun read => (read.1.map (c :: ·), read.2) := by
  have hcode : ∀ n < 32, unit? '0' '0' (hexDigit (n / 16)) (hexDigit (n % 16)) = some n := by
    decide
  have hplain : isHighHalf c.toNat = false ∧ isLowHalf c.toNat = false := by
    simp only [isHighHalf, isLowHalf, Bool.and_eq_false_iff, decide_eq_false_iff_not]
    omega
  have hother : ∀ code : Nat, c.toNat = code → c = Char.ofNat code := by
    rintro _ rfl
    exact (Char.ofNat_toNat c).symm
  have hquote : c ≠ '"' := by
    rintro rfl
    exact absurd hcontrol (by decide)
  have hbackslash : c ≠ '\\' := by
    rintro rfl
    exact absurd hcontrol (by decide)
  rw [← readChars_bind]
  unfold escapedChar
  rw [if_neg hquote, if_neg hbackslash, if_pos hcontrol]
  split_ifs with hline htab hreturn hback hform
  · subst hline
    rfl
  · subst htab
    rfl
  · subst hreturn
    rfl
  · rw [hother 8 hback]
    rfl
  · rw [hother 12 hform]
    rfl
  · -- The code is written with four digits, and is no half of a pair.
    show readChars none
      ('\\' :: 'u' :: '0' :: '0' :: hexDigit (c.toNat / 16) :: hexDigit (c.toNat % 16)
        :: rest) = _
    rw [readChars, hcode _ hcontrol]
    simp only [Option.bind_eq_bind, Option.bind_some, hplain, Bool.false_eq_true, if_false,
      Char.ofNat_toNat]

/-- One character is read back from the way it is written inside a string. -/
theorem readChars_escapedChar (c : Char) (rest : List Char) :
    readChars none (escapedChar c ++ rest)
      = (readChars none rest).map fun read => (read.1.map (c :: ·), read.2) := by
  by_cases hcontrol : c.toNat < 32
  · exact readChars_control hcontrol rest
  rw [← readChars_bind]
  unfold escapedChar
  by_cases hquote : c = '"'
  · subst hquote
    rfl
  by_cases hbackslash : c = '\\'
  · subst hbackslash
    rfl
  rw [if_neg hquote, if_neg hbackslash, if_neg hcontrol]
  show readChars none (c :: rest) = _
  rw [readChars]
  · rw [if_neg (by simp [hbackslash, hcontrol])]
    rfl
  · exact hquote
  · exact fun _ _ _ _ _ h _ => hbackslash h
  · exact fun _ _ h _ => hbackslash h

/-- A string is read up to its closing quote. -/
theorem readString_written (s : String) (rest : List Char) :
    readString (s.toList.flatMap escapedChar ++ '"' :: rest) = some (.ofText s, rest) := by
  have hchars : ∀ cs : List Char,
      readChars none (cs.flatMap escapedChar ++ '"' :: rest) = some (some cs, rest) := by
    intro cs
    induction cs with
    | nil => rfl
    | cons c cs ih =>
        rw [List.flatMap_cons, List.append_assoc, readChars_escapedChar, ih]
        rfl
  unfold readString
  rw [hchars]
  show some (Node.ofText (String.ofList s.toList), rest) = _
  rw [String.ofList_toList]

/-! ## Numbers -/

/-- What cannot go on a number. -/
def EndsNumber (rest : List Char) : Prop :=
  ∀ c ∈ rest.head?, c.isDigit = false ∧ c ≠ '.' ∧ c ≠ 'e' ∧ c ≠ 'E'

theorem endsNumber_nil : EndsNumber [] := nofun

/-- The marks behind an item or a member are no part of a number. -/
theorem endsNumber_mark {c : Char} (h : c = ',' ∨ c = ']' ∨ c = '\x7d') (rest : List Char) :
    EndsNumber (c :: rest) := by
  rintro _ ⟨⟩
  obtain rfl | rfl | rfl := h <;> decide

/-- Digits of a number that fits are all taken. -/
theorem takeDigits_eq {digits : List Char} {significand : Nat}
    (h : digits.foldl (fun n c => 10 * n + (c.toNat - '0'.toNat)) significand ≤ significandLimit) :
    takeDigits significand digits
      = (digits.foldl (fun n c => 10 * n + (c.toNat - '0'.toNat)) significand, []) := by
  induction digits generalizing significand with
  | nil => rfl
  | cons c digits ih =>
      -- The number only grows with its digits, so it fits all along.
      have hgrows : ∀ (digits : List Char) (n : Nat),
          n ≤ digits.foldl (fun n c => 10 * n + (c.toNat - '0'.toNat)) n := by
        intro digits
        induction digits with
        | nil => exact fun n => Nat.le_refl n
        | cons d digits ih =>
            intro n
            rw [List.foldl_cons]
            exact Nat.le_trans (by omega) (ih _)
      rw [List.foldl_cons] at h
      rw [takeDigits, if_pos (Nat.le_trans (hgrows digits _) h), ih h, List.foldl_cons]

theorem takeDigits_toDigits {n : Nat} (h : n ≤ significandLimit) :
    takeDigits 0 (Nat.toDigits 10 n) = (n, []) := by
  have hvalue := digitsValue_toDigits n
  unfold digitsValue at hvalue
  rw [takeDigits_eq (hvalue.symm ▸ h), hvalue]

/-- The digits of a number stand for it. -/
theorem integerOf_natural {n : Nat} (h : n ≤ significandLimit) :
    integerOf false (Nat.toDigits 10 n) = .int n := by
  unfold integerOf
  rw [takeDigits_toDigits h]
  rfl

theorem integerOf_negative {n : Nat} (hzero : n ≠ 0) (h : n ≤ Nat.pow 2 63) :
    integerOf true (Nat.toDigits 10 n) = .int (-n) := by
  have hsmaller : Nat.pow 2 63 ≤ significandLimit := by decide +kernel
  unfold integerOf
  rw [takeDigits_toDigits (Nat.le_trans h hsmaller)]
  have hinteger : (decide (n = 0) || decide (Nat.pow 2 63 < n)) = false := by
    rw [decide_eq_false hzero, decide_eq_false (Nat.not_lt.mpr h)]
    rfl
  simp only [List.isEmpty_nil, if_true, Bool.not_true, Bool.false_eq_true, if_false, hinteger]

theorem splitFraction_of_ends (h : EndsNumber rest) : splitFraction rest = some ([], rest) := by
  cases rest with
  | nil => rfl
  | cons c rest =>
      have hc := (h c rfl).2.1
      rw [splitFraction]
      exact fun _ heq => hc (List.cons.inj heq).1

theorem splitExponent_of_ends (h : EndsNumber rest) : splitExponent rest = some (none, rest) := by
  cases rest with
  | nil => rfl
  | cons c rest =>
      have hc := (h c rfl).2.2
      rw [splitExponent, if_neg (by simpa using hc)]

/-- The digits of a number, up to where no number can go on. -/
theorem readNumber_digits (n : Nat) (hrest : EndsNumber rest) :
    readNumber (Nat.toDigits 10 n ++ rest) = some (integerOf false (Nat.toDigits 10 n), rest)
      ∧ readNumber ('-' :: (Nat.toDigits 10 n ++ rest))
        = some (integerOf true (Nat.toDigits 10 n), rest) := by
  have hdigits : ∀ c ∈ Nat.toDigits 10 n, c.isDigit = true := fun c hc => isDigit_toDigits hc
  have hstop : ∀ c ∈ rest.head?, c.isDigit = false := fun c hc => (hrest c hc).1
  -- No zero stands in front of other digits.
  have hwhole : ((Nat.toDigits 10 n).isEmpty || decide ((Nat.toDigits 10 n).head? = some '0')
      && decide ((Nat.toDigits 10 n).length ≠ 1)) = false := by
    by_cases hn : n = 0
    · subst hn
      rfl
    · simp [head_toDigits hn, Nat.toDigits_ne_nil]
  have hsign : ∀ more, Nat.toDigits 10 n ++ rest ≠ '-' :: more := by
    intro more heq
    cases hform : Nat.toDigits 10 n with
    | nil => exact Nat.toDigits_ne_nil hform
    | cons c cs =>
        rw [hform] at heq
        cases heq
        exact absurd (hdigits '-' (hform ▸ List.mem_cons_self)) (by decide)
  constructor
  · unfold readNumber
    split
    next negative cs heq =>
    split at heq
    · next hminus =>
      exact absurd hminus (hsign _)
    · cases heq
      simp only [Text.takeWhile_run hdigits hstop, Text.dropWhile_run hdigits hstop, hwhole,
        splitFraction_of_ends hrest, splitExponent_of_ends hrest, Option.bind_eq_bind,
        Option.bind_some, Bool.false_eq_true, if_false, List.isEmpty_nil, Option.isNone_none,
        Bool.and_self, if_true]
  · unfold readNumber
    simp only [Text.takeWhile_run hdigits hstop, Text.dropWhile_run hdigits hstop, hwhole,
      splitFraction_of_ends hrest, splitExponent_of_ends hrest, Option.bind_eq_bind,
      Option.bind_some, Bool.false_eq_true, if_false, List.isEmpty_nil, Option.isNone_none,
      Bool.and_self, if_true]

/-- A number is read from its digits. -/
theorem readNumber_int {n : Int} (hfits : (Tree.int n).integral = true) (hrest : EndsNumber rest) :
    readNumber ((toString n).toList ++ rest) = some (.int n, rest) := by
  obtain ⟨hleast, hlimit⟩ := Tree.integral_int.mp hfits
  cases n with
  | ofNat n =>
      have hn : n ≤ significandLimit := by
        have hcast : significandLimit = 18446744073709551615 := by decide +kernel
        have hpower : Int.pow 2 64 = 18446744073709551616 := by decide +kernel
        rw [hpower, Int.ofNat_eq_natCast] at hlimit
        rw [hcast]
        omega
      rw [toList_ofNat, (readNumber_digits n hrest).1, integerOf_natural hn]
      rfl
  | negSucc n =>
      have hn : n + 1 ≤ Nat.pow 2 63 := by
        have hcast : Nat.pow 2 63 = 9223372036854775808 := by decide +kernel
        have hpower : Int.pow 2 63 = 9223372036854775808 := by decide +kernel
        rw [hpower] at hleast
        rw [hcast]
        omega
      rw [toList_negSucc, List.cons_append, (readNumber_digits (n + 1) hrest).2,
        integerOf_negative (Nat.succ_ne_zero n) hn]
      rfl

/-- A number begins with a digit or with a minus sign. -/
theorem toList_int_cons (n : Int) :
    ∃ c cs, (toString n).toList = c :: cs ∧ (c = '-' ∨ c.isDigit = true) := by
  cases n with
  | ofNat n =>
      cases hform : Nat.toDigits 10 n with
      | nil => exact absurd hform Nat.toDigits_ne_nil
      | cons c cs =>
          refine ⟨c, cs, (toList_ofNat n).trans hform, .inr ?_⟩
          exact isDigit_toDigits (hform ▸ List.mem_cons_self)
  | negSucc n => exact ⟨'-', _, toList_negSucc n, .inl rfl⟩

/-! ## Values -/

theorem skipBlanks_cons {c : Char} (h : isBlank c = false) (cs : List Char) :
    skipBlanks (c :: cs) = c :: cs :=
  List.dropWhile_cons_of_neg (by rw [h]; nofun)

theorem isBlank_of_digit {c : Char} (h : c = '-' ∨ c.isDigit = true) : isBlank c = false := by
  rw [Bool.eq_false_iff]
  intro hblank
  simp only [isBlank, Bool.or_eq_true, decide_eq_true_eq] at hblank
  obtain ((rfl | rfl) | rfl) | rfl := hblank <;> revert h <;> decide

/-- A written document begins with a character that is neither a blank nor a closing bracket. -/
theorem treeChars_cons {t : Tree} (h : t.integral = true) :
    ∃ c cs, treeChars t = c :: cs ∧ isBlank c = false ∧ c ≠ ']' := by
  cases t with
  | null => exact ⟨'n', _, rfl, rfl, by decide⟩
  | bool b => cases b <;> exact ⟨_, _, rfl, rfl, by decide⟩
  | int n =>
      obtain ⟨c, cs, hform, hc⟩ := toList_int_cons n
      refine ⟨c, cs, hform, isBlank_of_digit hc, ?_⟩
      rintro rfl
      revert hc
      decide
  | float x => cases h
  | text s => exact ⟨'"', _, rfl, rfl, by decide⟩
  | array items => exact ⟨'[', _, rfl, rfl, by decide⟩
  | object members => exact ⟨'\x7b', _, rfl, rfl, by decide⟩

/-- Behind an item that is not the last there is a comma. -/
theorem itemChars_comma (t u : Tree) (us : Trees) :
    itemChars (.cons t (.cons u us)) = treeChars t ++ ',' :: itemChars (.cons u us) := rfl

theorem memberChars_comma (k l : String) (t u : Tree) (us : Members) :
    memberChars (.cons k t (.cons l u us))
      = stringChars k ++ ':' :: (treeChars t ++ ',' :: memberChars (.cons l u us)) := rfl

theorem itemChars_cons {t : Tree} {ts : Trees} (h : (Tree.array (.cons t ts)).integral = true) :
    ∃ c cs, itemChars (.cons t ts) = c :: cs ∧ isBlank c = false ∧ c ≠ ']' := by
  rw [Tree.integral, Trees.integral, Bool.and_eq_true] at h
  obtain ⟨c, cs, hform, hc⟩ := treeChars_cons h.1
  cases ts with
  | nil => exact ⟨c, cs, hform, hc⟩
  | cons u us => exact ⟨c, _, by rw [itemChars_comma, hform, List.cons_append], hc⟩

theorem memberChars_cons (k : String) (t : Tree) (ms : Members) :
    ∃ cs, memberChars (.cons k t ms) = '"' :: cs := by
  cases ms <;> exact ⟨_, rfl⟩

/-- Neither a digit nor a minus sign begins anything but a number. -/
theorem readValue_number {c : Char} (hc : c = '-' ∨ c.isDigit = true) (fuel : Nat)
    (cs : List Char) : readValue (fuel + 1) (c :: cs)
      = (do let (scalar, after) ← readNumber (c :: cs); some (.scalar scalar none, after)) := by
  rw [readValue, skipBlanks_cons (isBlank_of_digit hc)]
  split
  all_goals
    next heq =>
      first
        | rfl
        | cases heq <;> exact absurd hc (by decide)

mutual

/-- A written document is read, whatever follows it that does not go on a number.  The fuel is the
one that `Json.read?` has for the text. -/
theorem readValue_written : ∀ (t : Tree) {fuel : Nat} {rest : List Char}, t.integral = true →
    EndsNumber rest → 2 * (treeChars t).length ≤ fuel →
    readValue fuel (treeChars t ++ rest) = some (t.asRead, rest)
  | .null, fuel + 1, rest, _, _, _ => rfl
  | .bool true, fuel + 1, rest, _, _, _ => rfl
  | .bool false, fuel + 1, rest, _, _, _ => rfl
  | .int n, fuel + 1, rest, hintegral, hrest, _ => by
      obtain ⟨c, cs, hform, hc⟩ := toList_int_cons n
      have hread := readNumber_int hintegral hrest
      rw [hform, List.cons_append] at hread
      rw [treeChars, hform, List.cons_append, readValue_number hc, hread]
      rfl
  | .text s, fuel + 1, rest, _, _, _ => by
      show readString ((s.toList.flatMap escapedChar ++ ['"']) ++ rest) = _
      rw [List.append_assoc]
      exact readString_written s rest
  | .array .nil, fuel + 1, rest, _, _, _ => rfl
  | .array (.cons t ts), fuel + 1, rest, hintegral, _, hfuel => by
      have hform : treeChars (.array (.cons t ts)) ++ rest
          = '[' :: (itemChars (.cons t ts) ++ ']' :: rest) := by
        simp [treeChars]
      have hlength : (treeChars (.array (.cons t ts))).length
          = (itemChars (.cons t ts)).length + 2 := by
        simp [treeChars]
      -- The first item begins with neither a blank nor the closing bracket.
      obtain ⟨c, cs, hhead, hblank, hbracket⟩ := itemChars_cons hintegral
      have hitems := @readItems_written t ts fuel rest hintegral (by omega)
      rw [hform, readValue, skipBlanks_cons (by decide)]
      rw [hhead, List.cons_append] at hitems ⊢
      simp only [skipBlanks_cons hblank]
      split
      · next heq => exact absurd (List.cons.inj heq).1 hbracket
      · rw [hitems]
        rfl
  | .object .nil, fuel + 1, rest, _, _, _ => rfl
  | .object (.cons k t ms), fuel + 1, rest, hintegral, _, hfuel => by
      have hform : treeChars (.object (.cons k t ms)) ++ rest
          = '\x7b' :: (memberChars (.cons k t ms) ++ '\x7d' :: rest) := by
        simp [treeChars]
      have hlength : (treeChars (.object (.cons k t ms))).length
          = (memberChars (.cons k t ms)).length + 2 := by
        simp [treeChars]
      obtain ⟨cs, hhead⟩ := memberChars_cons k t ms
      have hmembers := @readMembers_written k t ms fuel rest hintegral (by omega)
      rw [hform, readValue, skipBlanks_cons (by decide)]
      rw [hhead, List.cons_append] at hmembers ⊢
      have hblanks := skipBlanks_cons (c := '"') rfl (cs ++ '\x7d' :: rest)
      simp only [hblanks]
      split
      · next heq => exact absurd (List.cons.inj heq).1 (by decide)
      · rw [hmembers]
        rfl
  | t, 0, rest, hintegral, _, hfuel => by
      obtain ⟨c, cs, hform, -⟩ := treeChars_cons hintegral
      rw [hform, List.length_cons] at hfuel
      omega

theorem readItems_written : ∀ (t : Tree) (ts : Trees) {fuel : Nat} {rest : List Char},
    (Trees.cons t ts).integral = true → 2 * (itemChars (.cons t ts)).length + 1 ≤ fuel →
    readItems fuel (itemChars (.cons t ts) ++ ']' :: rest) = some ((Trees.cons t ts).asRead, rest)
  | t, .nil, fuel + 1, rest, hintegral, hfuel => by
      rw [Trees.integral, Bool.and_eq_true] at hintegral
      rw [itemChars] at hfuel ⊢
      have hitem := @readValue_written t fuel (']' :: rest) hintegral.1
        (endsNumber_mark (.inr (.inl rfl)) rest) (by omega)
      rw [readItems, hitem]
      rfl
  | t, .cons u us, fuel + 1, rest, hintegral, hfuel => by
      rw [Trees.integral, Bool.and_eq_true] at hintegral
      rw [itemChars_comma, List.length_append, List.length_cons] at hfuel
      have hitem := @readValue_written t fuel (',' :: (itemChars (.cons u us) ++ ']' :: rest))
        hintegral.1 (endsNumber_mark (.inl rfl) _) (by omega)
      have hitems := @readItems_written u us fuel rest hintegral.2 (by omega)
      rw [itemChars_comma, List.append_assoc, List.cons_append, readItems, hitem]
      show (readItems fuel _ >>= _) = _
      rw [hitems]
      rfl

theorem readMembers_written : ∀ (k : String) (t : Tree) (ms : Members) {fuel : Nat}
    {rest : List Char},
    (Members.cons k t ms).integral = true → 2 * (memberChars (.cons k t ms)).length + 1 ≤ fuel →
    readMembers fuel (memberChars (.cons k t ms) ++ '\x7d' :: rest)
      = some ((Members.cons k t ms).asRead, rest)
  | k, t, .nil, fuel + 1, rest, hintegral, hfuel => by
      rw [Members.integral, Bool.and_eq_true] at hintegral
      rw [memberChars, List.length_append, List.length_cons] at hfuel
      have hvalue := @readValue_written t fuel ('\x7d' :: rest) hintegral.1
        (endsNumber_mark (.inr (.inr rfl)) rest) (by omega)
      -- The name, the colon and the value are read in turn.
      have hform : memberChars (.cons k t .nil) ++ '\x7d' :: rest
          = '"' :: (k.toList.flatMap escapedChar ++ '"' :: ':' ::
              (treeChars t ++ '\x7d' :: rest)) := by
        simp [memberChars, stringChars]
      rw [hform, readMembers, skipBlanks_cons rfl]
      show (readString _ >>= _) = _
      rw [readString_written]
      show (readValue fuel _ >>= _) = _
      rw [hvalue]
      rfl
  | k, t, .cons l u us, fuel + 1, rest, hintegral, hfuel => by
      rw [Members.integral, Bool.and_eq_true] at hintegral
      rw [memberChars_comma, List.length_append, List.length_cons, List.length_append,
        List.length_cons] at hfuel
      have hvalue := @readValue_written t fuel
        (',' :: (memberChars (.cons l u us) ++ '\x7d' :: rest)) hintegral.1
        (endsNumber_mark (.inl rfl) _) (by omega)
      have hmembers := @readMembers_written l u us fuel rest hintegral.2 (by omega)
      have hform : memberChars (.cons k t (.cons l u us)) ++ '\x7d' :: rest
          = '"' :: (k.toList.flatMap escapedChar ++ '"' :: ':' ::
              (treeChars t ++ ',' :: (memberChars (.cons l u us) ++ '\x7d' :: rest))) := by
        simp [memberChars_comma, stringChars]
      rw [hform, readMembers, skipBlanks_cons rfl]
      show (readString _ >>= _) = _
      rw [readString_written]
      show (readValue fuel _ >>= _) = _
      rw [hvalue]
      show (readMembers fuel _ >>= _) = _
      rw [hmembers]
      rfl

end

/-- A written document is read as what it was written for. -/
theorem read_print {t : Tree} (h : t.integral = true) : read? (print t) = some t.asRead := by
  unfold read? print
  rw [String.toList_ofList]
  have hread := @readValue_written t (2 * (treeChars t).length + 2) [] h endsNumber_nil (by omega)
  rw [List.append_nil] at hread
  show (readValue _ _ >>= _) = _
  rw [hread]
  rfl

end Json

end QueryReport.Document
