import QueryReport.Document.Decode
import QueryReport.Proofs.Document.Json
import QueryReport.Proofs.Except

/-!
# `QueryReport.Proofs.Document.Decode`: what is said about a document that was written

A document that was written and is read as `Tree.asRead` has the meaning it was written for.

* `decodeTree_asRead`: a free-form document is the same again if it does not nest too deeply.  Its
  objects are put in order of their keys, so they had to be in that order (`Tree.ordered`).
* `Record.States`: a record states the fields that were written and no others, which is what every
  reader of a field asks for.  `record_written` says that it does.
* `decodeText_written`, `decodeNat_written`, …: the values of fields.
-/

set_option autoImplicit false

namespace QueryReport.Document

/-! ## Free-form documents -/

mutual

/-- How deeply arrays and objects nest. -/
def Tree.depth : Tree → Nat
  | .array items => items.depth + 1
  | .object members => members.depth + 1
  | _ => 0

def Trees.depth : Trees → Nat
  | .nil => 0
  | .cons t ts => max t.depth ts.depth

def Members.depth : Members → Nat
  | .nil => 0
  | .cons _ t ms => max t.depth ms.depth

end

mutual

theorem Tree.depth_asRead : ∀ t : Tree, t.asRead.depth = t.depth
  | .null | .bool _ | .int _ | .float _ | .text _ => rfl
  | .array items => congrArg (· + 1) items.depth_asRead
  | .object members => congrArg (· + 1) members.depth_asRead

theorem Trees.depth_asRead : ∀ ts : Trees, ts.asRead.depth = ts.depth
  | .nil => rfl
  | .cons t ts => congrArg₂ max t.depth_asRead ts.depth_asRead

theorem Members.depth_asRead : ∀ ms : Members, ms.asRead.depth = ms.depth
  | .nil => rfl
  | .cons k t ms => by
      show max (max 0 t.asRead.depth) ms.asRead.depth = max t.depth ms.depth
      rw [Nat.zero_max, t.depth_asRead, ms.depth_asRead]

end

mutual

/-- Whether the members of every object are in order of their keys. -/
def Tree.ordered : Tree → Bool
  | .array items => items.ordered
  | .object members =>
    decide ((members.toList.map Prod.fst).Pairwise (· < ·)) && members.ordered
  | _ => true

def Trees.ordered : Trees → Bool
  | .nil => true
  | .cons t ts => t.ordered && ts.ordered

def Members.ordered : Members → Bool
  | .nil => true
  | .cons _ t ms => t.ordered && ms.ordered

end

@[simp] theorem Members.ofList_toList : ∀ ms : Members, Members.ofList ms.toList = ms
  | .nil => rfl
  | .cons k t ms => congrArg (Members.cons k t) ms.ofList_toList

/-- A key behind all others is put at the end. -/
theorem Members.insert_last {key : String} {found : List (String × Tree)}
    (h : ∀ k ∈ found.map Prod.fst, k < key) (t : Tree) :
    (Members.ofList found).insert key t = Members.ofList (found ++ [(key, t)]) := by
  induction found with
  | nil => rfl
  | cons entry found ih =>
      obtain ⟨k, u⟩ := entry
      rw [List.map_cons, List.forall_mem_cons] at h
      have hne : key ≠ k := fun heq => String.lt_irrefl k (heq ▸ h.1)
      rw [Members.ofList, Members.insert, if_neg (String.lt_asymm h.1), if_neg hne, ih h.2]
      rfl

mutual

theorem Tree.tree_asRead : ∀ {t : Tree}, t.integral = true → t.ordered = true →
    t.asRead.tree = .ok t
  | .null, _, _ | .bool _, _, _ | .text _, _, _ => rfl
  | .int n, hintegral, _ => if_pos hintegral
  | .array items, hintegral, hordered => by
      show (items.asRead.trees >>= _) = _
      rw [Trees.trees_asRead hintegral hordered]
      rfl
  | .object members, hintegral, hordered => by
      rw [Tree.ordered, Bool.and_eq_true, decide_eq_true_eq] at hordered
      show (members.asRead.treesInto .nil >>= _) = _
      have hmembers := @Members.treesInto_asRead members [] hintegral hordered.2 hordered.1
      rw [List.nil_append, Members.ofList_toList] at hmembers
      rw [show Members.nil = Members.ofList [] from rfl, hmembers]
      rfl

theorem Trees.trees_asRead : ∀ {ts : Trees}, ts.integral = true → ts.ordered = true →
    ts.asRead.trees = .ok ts
  | .nil, _, _ => rfl
  | .cons t ts, hintegral, hordered => by
      rw [Trees.integral, Bool.and_eq_true] at hintegral
      rw [Trees.ordered, Bool.and_eq_true] at hordered
      show (t.asRead.tree >>= _) = _
      rw [Tree.tree_asRead hintegral.1 hordered.1]
      show (ts.asRead.trees >>= _) = _
      rw [Trees.trees_asRead hintegral.2 hordered.2]
      rfl

/-- Members that follow those found so far are put behind them one after the other. -/
theorem Members.treesInto_asRead : ∀ {ms : Members} {found : List (String × Tree)},
    ms.integral = true → ms.ordered = true →
    ((found ++ ms.toList).map Prod.fst).Pairwise (· < ·) →
    ms.asRead.treesInto (.ofList found) = .ok (.ofList (found ++ ms.toList))
  | .nil, found, _, _, _ => by
      rw [Members.toList, List.append_nil]
      rfl
  | .cons k t ms, found, hintegral, hordered, hkeys => by
      rw [Members.integral, Bool.and_eq_true] at hintegral
      rw [Members.ordered, Bool.and_eq_true] at hordered
      rw [Members.toList, List.append_cons] at hkeys ⊢
      -- Members stand in order, so each comes behind all those that were found.
      have hlast : ∀ other ∈ found.map Prod.fst, other < k := by
        rw [List.map_append, List.map_append, List.append_assoc, List.pairwise_append] at hkeys
        exact fun other hother =>
          hkeys.2.2 other hother k (List.mem_append_left _ List.mem_cons_self)
      show (t.asRead.tree >>= _) = _
      rw [Tree.tree_asRead hintegral.1 hordered.1]
      show ms.asRead.treesInto ((Members.ofList found).insert k t) = _
      rw [Members.insert_last hlast]
      exact Members.treesInto_asRead hintegral.2 hordered.2 hkeys

end

/-- A free-form document is the same again, unless it nests too deeply. -/
theorem decodeTree_asRead (rules : Rules) {t : Tree} (hintegral : t.integral = true)
    (hordered : t.ordered = true) : decodeTree rules t.asRead
      = if t.depth ≤ rules.depth then .ok t else .error .tooDeep := by
  unfold decodeTree
  rw [t.depth_asRead, Tree.tree_asRead hintegral hordered]
  by_cases h : t.depth ≤ rules.depth
  · rw [if_neg (Nat.not_lt.mpr h), if_pos h]
  · rw [if_pos (Nat.lt_of_not_le h), if_neg h]

/-! ## Records -/

variable {α : Type} {r : Record} {names : List String} {fields : List (String × Tree)}
  {rules : Rules} {name : String} {t : Tree} {a : α}

@[simp] theorem Trees.toList_asRead (ts : List Tree) :
    (Trees.ofList ts).asRead.toList = ts.map Tree.asRead := by
  induction ts with
  | nil => rfl
  | cons t ts ih => exact congrArg (t.asRead :: ·) ih

@[simp] theorem Members.toList_asRead (fields : List (String × Tree)) :
    (Members.ofList fields).asRead.toList = fields.map fun (k, t) => (.ofText k, t.asRead) := by
  induction fields with
  | nil => rfl
  | cons entry fields ih => exact congrArg ((.ofText entry.1, entry.2.asRead) :: ·) ih

/-- The record states these fields and no others. -/
def Record.States (r : Record) (fields : List (String × Tree)) : Prop :=
  ∀ name, r.find? name = (fields.lookup name).map Tree.asRead

/-- Known fields that are all different are added to those found before. -/
theorem recordOfMembers_written {found : Record} (hnames : ∀ k ∈ fields.map Prod.fst, k ∈ names)
    (hkeys : (fields.map Prod.fst).Nodup)
    (hnew : ∀ k ∈ fields.map Prod.fst, found.find? k = none) :
    ∃ r, recordOfMembers names (fields.map fun (k, t) => (.ofText k, t.asRead)) found = .ok r
      ∧ ∀ name, r.find? name = ((fields.lookup name).map Tree.asRead).or (found.find? name) := by
  induction fields generalizing found with
  | nil => exact ⟨found, rfl, fun _ => rfl⟩
  | cons entry fields ih =>
      obtain ⟨k, t⟩ := entry
      rw [List.map_cons, List.forall_mem_cons] at hnames hnew
      rw [List.map_cons, List.nodup_cons] at hkeys
      have hlookup : ∀ {name}, name ≠ k →
          Record.find? ((k, t.asRead) :: found) name = found.find? name := fun hne => by
        rw [Record.find?, List.lookup_cons, beq_eq_false_iff_ne.mpr hne]
        rfl
      have hrest : ∀ name ∈ fields.map Prod.fst,
          Record.find? ((k, t.asRead) :: found) name = none := fun name hname => by
        rw [hlookup fun heq => hkeys.1 (heq ▸ hname)]
        exact hnew.2 name hname
      -- The field is put before those found, so that the others have to be new with it as well.
      obtain ⟨r, hr, hstates⟩ := ih hnames.2 hkeys.2 hrest
      have hknown : names.contains k = true := List.contains_iff_mem.mpr hnames.1
      have hsingle : (found.any fun entry => entry.1 == k) = false := by
        refine List.any_eq_false.mpr fun entry hentry heq => ?_
        have hother := List.lookup_eq_none_iff.mp hnew.1 entry hentry
        rw [beq_iff_eq.mp heq, bne_self_eq_false] at hother
        cases hother
      refine ⟨r, ?_, fun name => ?_⟩
      · show (if !names.contains k then _ else if found.any _ then _ else _) = _
        rw [hknown, hsingle]
        exact hr
      · rw [hstates name, List.lookup_cons]
        by_cases hname : name = k
        · -- The field is stated by this member and by none of the others.
          subst hname
          have hnone : fields.lookup name = none := by
            refine List.lookup_eq_none_iff.mpr fun entry hentry => bne_iff_ne.mpr ?_
            rintro rfl
            have hmem := List.mem_map_of_mem (f := Prod.fst) hentry
            exact hkeys.1 hmem
          rw [hnone, beq_self_eq_true, Record.find?, List.lookup_cons_self]
          rfl
        · rw [hlookup hname, beq_eq_false_iff_ne.mpr hname]

/-- A record that was written states its fields, if they are among those asked for. -/
theorem record_written (rules : Rules) (ht : t = .ofMembers fields) (hnames : names.Nodup)
    (hkeys : (fields.map Prod.fst).Sublist names) :
    ∃ r : Record, t.asRead.record rules names = .ok r ∧ r.States fields := by
  have hfound := @recordOfMembers_written names fields [] (fun k hk => hkeys.subset hk)
    (hnames.sublist hkeys) fun _ _ => rfl
  obtain ⟨r, hr, hstates⟩ := hfound
  refine ⟨r, ?_, fun name => by rw [hstates name]; exact Option.or_none⟩
  rw [ht]
  show recordOfMembers names (Members.ofList fields).asRead.toList [] = .ok r
  rw [Members.toList_asRead]
  exact hr

theorem Record.States.required (h : r.States fields) {decode : Node → Except DecodeFault α}
    (hfield : fields.lookup name = some t) (ha : decode t.asRead = .ok a) :
    r.required name decode = .ok a := by
  rw [Record.required, h name, hfield]
  exact ha

theorem Record.States.optional (h : r.States fields) {decode : Node → Except DecodeFault α}
    {default : α} (hfield : fields.lookup name = some t) (ha : decode t.asRead = .ok a) :
    r.optional name default decode = .ok a := by
  rw [Record.optional, h name, hfield]
  exact ha

theorem Record.States.default (h : r.States fields) {decode : Node → Except DecodeFault α}
    {default : α} (hfield : fields.lookup name = none) :
    r.optional name default decode = .ok default := by
  rw [Record.optional, h name, hfield]
  rfl

/-! ## Values of fields -/

theorem decodeText_asRead (s : String) : decodeText (Tree.text s).asRead = .ok s := rfl

theorem decodeBool_asRead (b : Bool) : decodeBool (Tree.bool b).asRead = .ok b := rfl

theorem decodeInt_asRead {least limit n : Int} (h : least ≤ n ∧ n < limit) :
    decodeInt least limit (Tree.int n).asRead = .ok n :=
  if_pos (by rw [decide_eq_true h.1, decide_eq_true h.2]; rfl)

theorem decodeNat_asRead {bits n : Nat} (h : n < 2 ^ bits) :
    decodeNat bits (Tree.int n).asRead = .ok n := by
  have hlimit : (n : Int) < Int.pow 2 bits := by
    have hpower : ((2 ^ bits : Nat) : Int) = Int.pow 2 bits := Int.natCast_pow 2 bits
    rw [← hpower]
    exact Int.ofNat_lt.mpr h
  show Int.toNat <$> decodeInt 0 (Int.pow 2 bits) (Tree.int n).asRead = _
  rw [decodeInt_asRead ⟨Int.natCast_nonneg n, hlimit⟩]
  rfl

/-- A choice is found by its name if no other one has that name. -/
theorem decodeName_asRead {name : α → String} {all : List α}
    (h : all.find? (fun other => name other == name a) = some a) (rules : Rules) :
    decodeName rules name all (Tree.text (name a)).asRead = .ok a := by
  have hchoice : (Tree.text (name a)).asRead.choice rules = .ok (name a) := by
    cases rules with
    | mk keyed positional depth => cases keyed <;> rfl
  unfold decodeName
  rw [hchoice]
  simp only [bind, Except.bind, h]

theorem maybe_null (decode : Node → Except DecodeFault α) :
    maybe decode Tree.null.asRead = .ok none :=
  rfl

theorem maybe_asRead {decode : Node → Except DecodeFault α} (ha : decode t.asRead = .ok a)
    (ht : t ≠ .null) : maybe decode t.asRead = .ok (some a) := by
  have hthere : t.asRead.absent? = some false := by
    cases t <;> first | rfl | exact absurd rfl ht
  rw [maybe, hthere]
  show some <$> decode t.asRead = _
  rw [ha]
  rfl

/-- A field that is left out where it holds nothing. -/
theorem Record.States.maybe (h : r.States fields) {decode : Node → Except DecodeFault α}
    {encode : α → Tree} {o : Option α} (hfield : fields.lookup name = o.map encode)
    (ho : ∀ a ∈ o, decode (encode a).asRead = .ok a) (hnull : ∀ a, encode a ≠ .null) :
    r.optional name none (maybe decode) = .ok o := by
  cases o with
  | none => exact h.default hfield
  | some a => exact h.optional hfield (maybe_asRead (ho a rfl) (hnull a))

theorem Record.States.flag {b : Bool} (h : r.States fields)
    (hfield : fields.lookup name = some (.bool b)) : r.optional name false decodeBool = .ok b :=
  h.optional hfield (decodeBool_asRead b)

theorem decodeItems_asRead {decode : Node → Except DecodeFault α} {encode : α → Tree}
    {as : List α} (h : ∀ a ∈ as, decode (encode a).asRead = .ok a) :
    decodeItems decode (Tree.ofItems (as.map encode)).asRead = .ok as := by
  show (Trees.ofList (as.map encode)).asRead.toList.mapM decode = _
  rw [Trees.toList_asRead, List.map_map]
  exact mapM_map_ok h

end QueryReport.Document
