import QueryReport.Proofs.Report.Counting
import QueryReport.Proofs.Report.Rendering
import QueryReport.Proofs.Sql.Reading.Surroundings

/-!
# `QueryReport.Proofs.Report.Repaging`: writing back the paging of an adopted query

A report that adopts a text takes its paging over as two counts.  Once parameters are applied, even
none, the counts are written back as clauses of their own.

* `Query.PlainlyPaged` says of a query that its paging is already written the way that counts are:
  in plain digits, not zero, and without a word behind the rows to skip.
* `text_repaged_iff`: a query whose counts are written back has the same text exactly if it is
  plainly paged.
* `repaged_of_setSql` is the result for a report that has just adopted a text.
-/

set_option autoImplicit false

namespace QueryReport

open Sql

namespace Sql

/-! ## Plain paging -/

/-- The clause is absent, or it is a count other than zero in plain digits. -/
inductive MaybeExpr.IsPlainCount : MaybeExpr → Prop where
  | absent : IsPlainCount MaybeExpr.none
  | count {n : Nat} (hn : n ≠ 0) : IsPlainCount (MaybeExpr.some (.ofCount n))

/-- The paging of the query is written as counts are. -/
structure Query.PlainlyPaged (q : Query) : Prop where
  limit : q.limit.IsPlainCount
  offset : q.offset.IsPlainCount
  word : q.offset ≠ .none → q.offsetWord = .unstated

variable {e : Expr} {clause limitClause offsetClause : MaybeExpr} {n limit offset : Option Nat}
  {word : OffsetWord} {q : Query}

/-- A count in plain digits states itself, so it is what is written back. -/
theorem countClause_of_plain (h : clause.States n) (hplain : clause.IsPlainCount) :
    Query.countClause n = clause := by
  cases hplain with
  | absent =>
      cases h
      rfl
  | @count m hm =>
      rw [Expr.ofCount] at h
      cases h with
      | @count _ _ k hspells =>
          obtain ⟨digits, hdigits, -, hall, hvalue, -⟩ := hspells
          have htext : (toString m).toList = Nat.toDigits 10 m := by
            simp
          have hplus : (toString m).toList ≠ '+' :: digits := by
            intro heq
            have hmem : '+' ∈ Nat.toDigits 10 m := by
              rw [← htext, heq]
              exact List.mem_cons_self
            have := Decimal.isDigit_toDigits hmem
            exact absurd this (by decide)
          obtain rfl : k = m := by
            rw [← hvalue, ← hdigits.resolve_right hplus, htext]
            exact Decimal.digitsValue_toDigits m
          exact if_neg hm

/-- What is written back for a clause states its count again, unless the count is zero. -/
theorem MaybeExpr.States.countClause (h : clause.States n) :
    (Query.countClause n).States (n.filter (· ≠ 0)) := by
  refine states_countClause ?_
  rintro m rfl
  exact h.fits

/-! ## The text of the paging -/

/-- The text of the rows to skip. -/
def offsetText (offset : MaybeExpr) (word : OffsetWord) : String :=
  match offset with
  | .none => ""
  | .some e => " OFFSET " ++ e.text ++ word.text

/-- The text of a query in front of its paging. -/
def Query.frontText (q : Query) : String :=
  Query.withText q.recursive q.tables.texts ++ q.body.text ++ listClause " ORDER BY " q.order.texts

/-- The text of a query behind its paging. -/
def Query.backText (q : Query) : String :=
  (match q.fetch with | none => "" | some f => " " ++ f.text)
  ++ String.join (q.locks.map (" " ++ ·.text))
  ++ (match q.form with | none => "" | some f => " " ++ f.text)

/-- A query is written as its paging between what does not depend on it. -/
theorem Query.text_paging (q : Query) : q.text = q.frontText
    ++ (q.limit.after " LIMIT " ++ offsetText q.offset q.offsetWord ++ q.backText) := by
  obtain ⟨recursive, tables, body, order, limit, offset, offsetWord, fetch, locks, form⟩ := q
  have hassoc : ∀ a b c d e f g h : String,
      a ++ b ++ c ++ d ++ e ++ f ++ g ++ h = a ++ b ++ c ++ (d ++ e ++ (f ++ g ++ h)) := by
    simp only [String.append_assoc, implies_true]
  -- The text of an expression is unfolded only where it is known to be there.
  cases offset with
  | none => exact hassoc _ _ _ _ _ _ _ _
  | some e => exact hassoc _ _ _ _ _ _ _ _

/-- What stands in front of the first blank is determined by the whole, and so is the rest. -/
theorem append_inj_of_blank {cs cs' rest rest' : List Char} (hcs : ' ' ∉ cs) (hcs' : ' ' ∉ cs')
    (hrest : ∀ c ∈ rest.head?, c = ' ') (hrest' : ∀ c ∈ rest'.head?, c = ' ')
    (h : cs ++ rest = cs' ++ rest') : cs = cs' ∧ rest = rest' := by
  have htake : ∀ {cs rest : List Char}, ' ' ∉ cs → (∀ c ∈ rest.head?, c = ' ') →
      (cs ++ rest).takeWhile (· ≠ ' ') = cs := by
    intro cs rest hcs hrest
    rw [List.takeWhile_append_of_pos fun c hc => by simpa using ne_of_mem_of_not_mem hc hcs]
    cases rest with
    | nil => simp
    | cons c rest =>
        obtain rfl := hrest c rfl
        simp
  obtain rfl : cs = cs' := by
    rw [← htake hcs hrest, h, htake hcs' hrest']
  exact ⟨rfl, List.append_cancel_left h⟩

theorem not_mem_of_isDigit {c : Char} {cs : List Char} (hcs : ∀ c ∈ cs, c.isDigit)
    (hc : c.isDigit = false) : c ∉ cs := by
  intro hmem
  rw [hcs c hmem] at hc
  cases hc

/-- There is no blank in a count. -/
theorem MaybeExpr.States.no_blank {n : Nat} (h : (MaybeExpr.some e).States (Option.some n)) :
    ' ' ∉ e.text.toList := by
  cases h with
  | @count text long _ h =>
      obtain ⟨digits, htext, -, hdigits, -⟩ := h
      have hblank : ' ' ∉ digits := not_mem_of_isDigit hdigits (by decide)
      have htext : ' ' ∉ text.toList := by
        obtain htext | htext := htext
        · rw [htext]
          exact hblank
        · rw [htext, List.mem_cons, not_or]
          exact ⟨by decide, hblank⟩
      show ' ' ∉ (text ++ if long then "L" else "").toList
      rw [String.toList_append, List.mem_append, not_or]
      refine ⟨htext, ?_⟩
      cases long <;> decide

/-- A literal with the text of a count in plain digits is that count. -/
theorem MaybeExpr.States.eq_ofCount {n m : Nat} (h : (MaybeExpr.some e).States (Option.some n))
    (htext : e.text = (Expr.ofCount m).text) : e = .ofCount m := by
  cases h with
  | @count text long _ h =>
      have hcount : (Expr.ofCount m).text = toString m := String.append_empty
      rw [hcount] at htext
      cases long with
      | false =>
          have htext : text ++ "" = toString m := htext
          rw [String.append_empty] at htext
          rw [htext]
          rfl
      | true =>
          -- The mark of a long number is no digit.
          have htext : text ++ "L" = toString m := htext
          have hdigits : ∀ c ∈ (toString m).toList, c.isDigit := by
            intro c hc
            refine @Decimal.isDigit_toDigits m _ ?_
            simpa using hc
          have hmark : 'L' ∈ (toString m).toList := by
            rw [← htext, String.toList_append]
            exact List.mem_append_right _ List.mem_cons_self
          exact absurd (hdigits 'L' hmark) (by decide)

/-- The clause for the rows to skip is absent, or it begins with its word. -/
theorem offsetText_cases (offset : MaybeExpr) (word : OffsetWord) :
    offsetText offset word = "" ∨ ∃ more, offsetText offset word = " OFFSET " ++ more := by
  cases offset with
  | none => exact .inl rfl
  | some e => exact .inr ⟨_, String.append_assoc⟩

theorem offsetText_ne_limit (offset : MaybeExpr) (word : OffsetWord) (more : String) :
    offsetText offset word ≠ " LIMIT " ++ more := by
  intro heq
  -- The second letters differ, if there is one.
  have hsecond : (offsetText offset word).toList[1]? = some 'L' := by
    rw [heq, String.toList_append]
    rfl
  obtain h | ⟨more, h⟩ := offsetText_cases offset word
  · rw [h] at hsecond
    cases hsecond
  · rw [h, String.toList_append] at hsecond
    cases hsecond

theorem head_word (word : OffsetWord) : ∀ c ∈ word.text.toList.head?, c = ' ' := by
  cases word with
  | unstated => exact nofun
  | _ =>
      rintro c ⟨⟩
      rfl

theorem head_offsetText (offset : MaybeExpr) (word : OffsetWord) :
    ∀ c ∈ (offsetText offset word).toList.head?, c = ' ' := by
  obtain h | ⟨more, h⟩ := offsetText_cases offset word
  · rw [h]
    exact nofun
  · rw [h, String.toList_append]
    rintro _ ⟨⟩
    rfl

/-- A count in front of what begins with a blank is told from it. -/
theorem count_of_text {n : Nat} (h : (MaybeExpr.some e).States (Option.some n))
    (hfits : n < 2 ^ 64) {rest rest' : String} (hrest : ∀ c ∈ rest.toList.head?, c = ' ')
    (hrest' : ∀ c ∈ rest'.toList.head?, c = ' ')
    (htext : (Expr.ofCount n).text ++ rest = e.text ++ rest') : e = .ofCount n ∧ rest = rest' := by
  have hfresh : (MaybeExpr.some (.ofCount n)).States (Option.some n) :=
    .count (Decimal.spells64_toString hfits)
  rw [← String.toList_inj, String.toList_append, String.toList_append] at htext
  obtain ⟨hcount, hmore⟩ := append_inj_of_blank hfresh.no_blank h.no_blank hrest hrest' htext
  exact ⟨h.eq_ofCount (String.toList_inj.mp hcount).symm, String.toList_inj.mp hmore⟩

/-- Rows to skip that are written back as they were are written plainly. -/
theorem plain_of_offsetText (h : offsetClause.States offset)
    (htext : offsetText (Query.countClause offset) .unstated = offsetText offsetClause word) :
    offsetClause.IsPlainCount ∧ (offsetClause ≠ .none → word = .unstated) := by
  cases h with
  | absent => exact ⟨.absent, fun hne => absurd rfl hne⟩
  | @count text long n hspells =>
      have hstates := @MaybeExpr.States.count text long n hspells
      by_cases hzero : n = 0
      · -- Zero is not written back.
        have hempty : offsetText (Query.countClause (some n)) .unstated = "" := by
          rw [Query.countClause, if_pos hzero]
          rfl
        have hlength := congrArg String.length (hempty.symm.trans htext)
        have hword : " OFFSET ".length = 8 := by decide
        rw [offsetText, String.length_append, String.length_append, String.length_empty] at hlength
        omega
      · have hclause : Query.countClause (some n) = .some (.ofCount n) := if_neg hzero
        rw [hclause, offsetText, offsetText, String.append_assoc, String.append_assoc,
          String.append_right_inj] at htext
        obtain ⟨heq, hword⟩ := count_of_text hstates hstates.fits (head_word .unstated)
          (head_word word) htext
        rw [heq]
        refine ⟨.count hzero, fun _ => ?_⟩
        cases word with
        | unstated => rfl
        | row => exact absurd hword (by decide)
        | rows => exact absurd hword (by decide)

/-- A limit that is written back as it was is written plainly, whatever follows. -/
theorem plain_of_limitText (h : limitClause.States limit)
    (htext : (Query.countClause limit).after " LIMIT "
        ++ offsetText (Query.countClause offset) .unstated
      = limitClause.after " LIMIT " ++ offsetText offsetClause word) :
    limitClause.IsPlainCount
      ∧ offsetText (Query.countClause offset) .unstated = offsetText offsetClause word := by
  cases h with
  | absent =>
      have htext : "" ++ offsetText (Query.countClause offset) .unstated
        = "" ++ offsetText offsetClause word := htext
      rw [String.append_right_inj] at htext
      exact ⟨.absent, htext⟩
  | @count text long n hspells =>
      have hstates := @MaybeExpr.States.count text long n hspells
      by_cases hzero : n = 0
      · -- Zero is not written back, and the rows to skip do not begin as a limit does.
        have hclause : Query.countClause (some n) = .none := if_pos hzero
        rw [hclause] at htext
        have hafter : (MaybeExpr.some (.literal (.number text long))).after " LIMIT "
            = " LIMIT " ++ (Expr.literal (.number text long)).text := rfl
        rw [hafter, String.append_assoc] at htext
        exact absurd (String.empty_append.symm.trans htext) (offsetText_ne_limit _ _ _)
      · have hclause : Query.countClause (some n) = .some (.ofCount n) := if_neg hzero
        have hafter : ∀ e : Expr, (MaybeExpr.some e).after " LIMIT " = " LIMIT " ++ e.text :=
          fun _ => rfl
        rw [hclause, hafter, hafter, String.append_assoc, String.append_assoc,
          String.append_right_inj] at htext
        obtain ⟨heq, hmore⟩ := count_of_text hstates hstates.fits (head_offsetText _ _)
          (head_offsetText _ _) htext
        rw [heq]
        exact ⟨.count hzero, hmore⟩

/-- A query whose counts are written back has the same text exactly if its paging is written as
counts are. -/
theorem text_repaged_iff (hlimit : q.limit.States limit) (hoffset : q.offset.States offset) :
    ((q.withLimit limit).withOffset offset).text = q.text ↔ q.PlainlyPaged := by
  have htext : ((q.withLimit limit).withOffset offset).text = q.frontText
      ++ ((Query.countClause limit).after " LIMIT "
        ++ offsetText (Query.countClause offset) .unstated ++ q.backText) :=
    Query.text_paging ((q.withLimit limit).withOffset offset)
  rw [htext, q.text_paging, String.append_right_inj, String.append_left_inj]
  constructor
  · intro h
    obtain ⟨hplain, hmore⟩ := plain_of_limitText hlimit h
    obtain ⟨hplain', hword⟩ := plain_of_offsetText hoffset hmore
    exact ⟨hplain, hplain', hword⟩
  · rintro ⟨hplain, hplain', hword⟩
    rw [countClause_of_plain hlimit hplain, countClause_of_plain hoffset hplain']
    cases hclause : q.offset with
    | none => rfl
    | some e => rw [hword (by rw [hclause]; nofun)]

end Sql

namespace Report

variable {r adopted : Report} {text : String} {q : Query}

theorem runnableSql_eq_iff {next : Report} {q' : Query} (hq : r.runnable = .ok q)
    (hq' : next.runnable = .ok q') : next.runnableSql = r.runnableSql ↔ q'.text = q.text := by
  rw [runnableSql_of_runnable hq, runnableSql_of_runnable hq', Except.ok.injEq]

/-- A report that has just adopted a text has nothing but the query in it, the order that the query
states and the counts that its clauses state. -/
theorem paging_of_setSql (h : r.setSql text = .ok adopted) :
    ∃ q, adopted.baseline = some q ∧ adopted.working = none ∧ adopted.order = statedOrder q
      ∧ q.limit.States adopted.limit ∧ q.offset.States adopted.offset := by
  obtain ⟨q, columns, limit, offset, -, -, hlimit, hoffset, rfl⟩ := setSql_eq_ok.mp h
  rw [statedCount_eq_ok] at hlimit hoffset
  exact ⟨q, rfl, rfl, rfl, hlimit, hoffset⟩

/-- A report in the order of its query runs the repaged query as it is: paging leaves the order
alone. -/
theorem runnable_repaged {limit offset : Option Nat} (hq : r.baseline = some q)
    (horder : r.order = statedOrder q)
    (hworking : r.working = some ((q.withLimit limit).withOffset offset)) :
    r.runnable = .ok ((q.withLimit limit).withOffset offset) := by
  refine runnable_eq_ok.mpr ⟨q, hq, ?_⟩
  have hordered : ((q.withLimit limit).withOffset offset).withOrder (statedOrder q)
      = ((q.withOrder (statedOrder q)).withLimit limit).withOffset offset := rfl
  rw [hworking, horder, Option.getD_some, hordered, withOrder_statedOrder]

/-- Applying no parameters to a report that has just adopted a text writes the counts back that were
read from it.  The text to run stays as it is exactly if the paging is written as counts are: a
clause of zero goes, and a count that is spelled in another way is spelled plainly.  Doing so again
changes nothing. -/
theorem repaged_of_setSql (h : r.setSql text = .ok adopted) :
    ∃ q next, adopted.runnable = .ok q ∧ adopted.applyParams [] = .ok next
      ∧ next = { adopted with
          working := some ((q.withLimit adopted.limit).withOffset adopted.offset) }
      ∧ next.runnable = .ok ((q.withLimit adopted.limit).withOffset adopted.offset)
      ∧ (next.runnableSql = adopted.runnableSql ↔ q.PlainlyPaged)
      ∧ (q.limit.States adopted.limit
        ∧ (Query.countClause adopted.limit).States (adopted.limit.filter (· ≠ 0)))
      ∧ (q.offset.States adopted.offset
        ∧ (Query.countClause adopted.offset).States (adopted.offset.filter (· ≠ 0)))
      ∧ next.applyParams [] = .ok next := by
  obtain ⟨q, hq, hworking, horder, hlimit, hoffset⟩ := paging_of_setSql h
  have hrunnable : adopted.runnable = .ok q := by
    refine runnable_eq_ok.mpr ⟨q, hq, ?_⟩
    rw [hworking, horder]
    exact (withOrder_statedOrder q).symm
  let paged := (q.withLimit adopted.limit).withOffset adopted.offset
  let next : Report := { adopted with working := some paged }
  have happly : adopted.applyParams [] = .ok next := by
    refine applyParams_eq_ok.mpr ⟨q, q, ?_, rfl, rfl⟩
    rw [filterBase_nil hq, hworking]
    rfl
  have hnext : next.runnable = .ok paged := runnable_repaged hq horder rfl
  refine ⟨q, next, hrunnable, happly, rfl, hnext, ?_, ⟨hlimit, hlimit.countClause⟩,
    ⟨hoffset, hoffset.countClause⟩, applyParams_again happly⟩
  rw [runnableSql_eq_iff hrunnable hnext]
  exact text_repaged_iff hlimit hoffset

/-- A query with plain counts runs as the same text after parameters have been applied. -/
theorem plain_paging_kept : ∃ adopted next : Report,
    ({} : Report).setSql "SELECT id FROM t LIMIT 10 OFFSET 5" = .ok adopted
      ∧ adopted.applyParams [] = .ok next
      ∧ next.runnableSql = .ok "SELECT id FROM t LIMIT 10 OFFSET 5"
      ∧ next.applyParams [] = .ok next := by
  let text := "SELECT id FROM t LIMIT 10 OFFSET 5"
  let adopted : Report := ((Change.setSql text).outcome {}).2
  obtain ⟨hadopted, hsql⟩ : ({} : Report).setSql text = .ok adopted
      ∧ adopted.runnableSql = .ok text := by decide +kernel
  obtain ⟨q, hq, hlimit, hoffset, hword⟩ : ∃ q, adopted.runnable = .ok q
      ∧ q.limit = .some (.ofCount 10) ∧ q.offset = .some (.ofCount 5)
      ∧ q.offsetWord = .unstated := exists_ok (by decide +kernel)
  obtain ⟨q', next, hq', happly, -, -, hsame, -, -, hagain⟩ := repaged_of_setSql hadopted
  obtain rfl : q = q' := Except.ok.inj (hq.symm.trans hq')
  have hplain : q.PlainlyPaged :=
    ⟨hlimit ▸ .count (by decide), hoffset ▸ .count (by decide), fun _ => hword⟩
  exact ⟨adopted, next, hadopted, happly, (hsame.mpr hplain).trans hsql, hagain⟩

/-- A limit of zero is adopted, but it is not written back: no rows turn into all rows. -/
theorem zero_limit_dropped : ∃ adopted next : Report,
    ({} : Report).setSql "SELECT id FROM t LIMIT 0" = .ok adopted
      ∧ adopted.runnableSql = .ok "SELECT id FROM t LIMIT 0"
      ∧ adopted.applyParams [] = .ok next
      ∧ next.runnableSql = .ok "SELECT id FROM t"
      ∧ next.runnableSql ≠ adopted.runnableSql := by
  let adopted : Report := ((Change.setSql "SELECT id FROM t LIMIT 0").outcome {}).2
  exact ⟨adopted, ((Change.applyParams []).outcome adopted).2, by decide +kernel⟩

end Report

end QueryReport
