import QueryReport.Proofs.Sql.Dialect.Closing

/-!
# `QueryReport.Proofs.Sql.Dialect.Top`: moving a limit to the front

For T-SQL the limit at the end of a query's text becomes a `TOP` behind the words that the text
begins with.  Both are found in the text alone, after the quotes around names have been left out.

* `stripQuotes_lead` and `stripQuotes_append`: what has no quotes may be split off before the quotes
  are left out of the rest.
* `selectLength?_select` and `selectLength?_distinct`: where the words end that a query begins with.
* `Query.delimit_limit` puts this together for a query that begins with `SELECT` and ends with its
  limit.  One that begins with `WITH` has its limit taken away and nothing put in its place
  (`Query.delimit_limit_lost`).
* `Query.delimit_unlimited`: without a limit nothing is changed but the quotes, unless the query
  ends with a name that is like one.
-/

set_option autoImplicit false

namespace QueryReport.Sql

open Dialect QueryReport.Text

namespace Dialect

variable {cs blanks rest word : List Char}

/-! ## Quotes -/

theorem noQuotes_of_all (h : (cs.all fun c => decide (c ≠ '\'' ∧ c ≠ '"')) = true) :
    ∀ c ∈ cs, c ≠ '\'' ∧ c ≠ '"' :=
  fun c hc => of_decide_eq_true (List.all_eq_true.mp h c hc)

theorem stripQuotes_lead {lead : List Char} (hlead : ∀ c ∈ lead, c ≠ '\'' ∧ c ≠ '"')
    (cs : List Char) : stripQuotes false (lead ++ cs) = lead ++ stripQuotes false cs := by
  induction lead with
  | nil => rfl
  | cons c lead ih =>
      rw [List.forall_mem_cons] at hlead
      rw [List.cons_append, stripQuotes, if_neg Bool.false_ne_true, if_neg hlead.1.1,
        if_neg hlead.1.2, ih hlead.2, List.cons_append]

theorem stripQuotes_none (h : ∀ c ∈ cs, c ≠ '\'' ∧ c ≠ '"') : stripQuotes false cs = cs := by
  have hlead := stripQuotes_lead h []
  rwa [List.append_nil, stripQuotes, List.append_nil] at hlead

/-- Text without quotes after a text has no part in what is in quotes. -/
theorem stripQuotes_append {more : List Char} (hmore : ∀ c ∈ more, c ≠ '\'' ∧ c ≠ '"')
    (inside : Bool) (cs : List Char) (h : inside = true → '\'' ∈ cs) :
    stripQuotes inside (cs ++ more) = stripQuotes inside cs ++ more := by
  have hnone : '\'' ∉ more := fun hmem => (hmore _ hmem).1 rfl
  induction cs generalizing inside with
  | nil =>
      cases inside with
      | true => cases h rfl
      | false => exact stripQuotes_none hmore
  | cons c cs ih =>
      have hcontains : (cs ++ more).contains '\'' = cs.contains '\'' := by
        rw [List.contains_append]
        simp [hnone]
      rw [List.cons_append, stripQuotes, stripQuotes, hcontains]
      cases inside with
      | true =>
          -- The text goes on inside unless it is closed here.
          have hinside : decide (c ≠ '\'') = true → '\'' ∈ cs := by
            intro hc
            exact List.mem_of_ne_of_mem (of_decide_eq_true hc).symm (h rfl)
          rw [if_pos rfl, if_pos rfl, ih _ hinside, List.cons_append]
      | false =>
          rw [if_neg Bool.false_ne_true, if_neg Bool.false_ne_true]
          split
          · rw [ih _ fun hc => List.contains_iff_mem.mp hc, List.cons_append]
          · split
            · exact ih false nofun
            · rw [ih false nofun, List.cons_append]

/-! ## The words that a query begins with -/

/-- The text begins with a word that has a blank after it. -/
def BeginsWith (word cs : List Char) : Prop :=
  ∃ spelled blank more, cs = spelled ++ blank :: more ∧ Spells word spelled ∧ isBlank blank = true

theorem wordLength?_none (h : ¬ BeginsWith word cs) : wordLength? word cs = none := by
  unfold wordLength?
  cases hword : afterWord? word cs with
  | none => rfl
  | some rest =>
      obtain ⟨spelled, rfl, hspelled⟩ := afterWord?_eq_some.mp hword
      cases rest with
      | nil => rfl
      | cons c rest =>
          have hblank : isBlank c = false :=
            Bool.eq_false_iff.mpr fun hblank => h ⟨spelled, c, rest, rfl, hspelled, hblank⟩
          show (blanksLength? (c :: rest) >>= _) = none
          unfold blanksLength?
          rw [List.takeWhile_cons_of_neg (Bool.eq_false_iff.mp hblank)]
          rfl

/-- Blanks up to something else. -/
structure Blanks (blanks rest : List Char) : Prop where
  blank : ∀ c ∈ blanks, isBlank c = true
  rest : ∃ c more, rest = c :: more ∧ isBlank c = false

theorem Blanks.takeWhile (h : Blanks blanks rest) :
    (blanks ++ rest).takeWhile isBlank = blanks := by
  obtain ⟨hblank, c, more, rfl, hc⟩ := h
  rw [List.takeWhile_append_of_pos hblank,
    List.takeWhile_cons_of_neg (Bool.eq_false_iff.mp hc), List.append_nil]

theorem wordLength?_some {spelled : List Char} (hspelled : Spells word spelled)
    (hblanks : blanks ≠ []) (h : Blanks blanks rest) :
    wordLength? word (spelled ++ (blanks ++ rest)) = some (word.length + blanks.length) := by
  have hword : afterWord? word (spelled ++ (blanks ++ rest)) = some (blanks ++ rest) :=
    afterWord?_eq_some.mpr ⟨spelled, rfl, hspelled⟩
  unfold wordLength? blanksLength?
  rw [hword]
  simp only [Option.bind_eq_bind, Option.bind_some, h.takeWhile]
  cases blanks with
  | nil => exact absurd rfl hblanks
  | cons b blanks => rfl

theorem spells_iff : Spells word cs ↔ afterWord? word cs = some [] := by
  rw [afterWord?_eq_some]
  simp

/-- The first word of a text and what the second one adds to it. -/
theorem selectLength?_eq {n m : Nat} (hlead : cs.takeWhile isBlank = [])
    (hselect : wordLength? "select".toList cs = some n)
    (hdistinct : (wordLength? "distinct".toList (cs.drop n)).getD 0 = m) :
    selectLength? cs = some (n + m) := by
  unfold selectLength?
  dsimp only
  rw [hlead, List.length_nil, List.drop_zero, hselect]
  simp only [Option.bind_eq_bind, Option.bind_some, Nat.zero_add]
  rw [← hdistinct]
  cases wordLength? "distinct".toList (cs.drop n) with
  | none => rfl
  | some distinct => rfl

/-- A text that begins with `SELECT` and blanks, and no `DISTINCT` after them. -/
theorem selectLength?_select (h : Blanks blanks rest) (hblanks : blanks ≠ [])
    (hword : ¬ BeginsWith "distinct".toList rest) :
    selectLength? ("SELECT".toList ++ (blanks ++ rest))
      = some ("SELECT".toList ++ blanks).length := by
  have hspelled : Spells "select".toList "SELECT".toList := spells_iff.mpr rfl
  have hlength : ("SELECT".toList ++ blanks).length = "select".toList.length + blanks.length :=
    List.length_append
  have hdrop : ("SELECT".toList ++ (blanks ++ rest)).drop ("select".toList.length + blanks.length)
      = rest := by
    rw [← List.append_assoc]
    exact List.drop_left' hlength
  -- No second word is found behind the first, so that it adds nothing.
  have hnone : (wordLength? "distinct".toList (("SELECT".toList ++ (blanks ++ rest)).drop
      ("select".toList.length + blanks.length))).getD 0 = 0 := by
    rw [hdrop, wordLength?_none hword]
    rfl
  have hfound := selectLength?_eq rfl (wordLength?_some hspelled hblanks h) hnone
  rw [hlength]
  exact hfound

theorem selectLength?_distinct (h : Blanks blanks rest) (hblanks : blanks ≠ []) :
    selectLength? ("SELECT DISTINCT".toList ++ (blanks ++ rest))
      = some ("SELECT DISTINCT".toList ++ blanks).length := by
  have hselect : Spells "select".toList "SELECT".toList := spells_iff.mpr rfl
  have hdistinct : Spells "distinct".toList "DISTINCT".toList := spells_iff.mpr rfl
  have hblank : Blanks [' '] ("DISTINCT".toList ++ (blanks ++ rest)) :=
    ⟨List.forall_mem_singleton.mpr rfl, 'D', _, rfl, rfl⟩
  have hfirst : wordLength? "select".toList ("SELECT DISTINCT".toList ++ (blanks ++ rest))
      = some 7 :=
    wordLength?_some hselect (List.cons_ne_nil _ _) hblank
  have hsecond : (wordLength? "distinct".toList
      (("SELECT DISTINCT".toList ++ (blanks ++ rest)).drop 7)).getD 0 = 8 + blanks.length :=
    congrArg (Option.getD · 0) (wordLength?_some hdistinct hblanks h)
  have hlength : ("SELECT DISTINCT".toList ++ blanks).length = 7 + (8 + blanks.length) := by
    rw [List.length_append, ← Nat.add_assoc]
    rfl
  rw [hlength]
  exact selectLength?_eq rfl hfirst hsecond

/-! ## The limit -/

/-- Trailing blanks are dropped from the end that has something else. -/
theorem dropLastBlanks_append {more : List Char} (h : dropLastBlanks more ≠ []) (cs : List Char) :
    dropLastBlanks (cs ++ more) = cs ++ dropLastBlanks more := by
  have hsome : (more.reverse.dropWhile isBlank).isEmpty = false := by
    rw [Bool.eq_false_iff, ne_eq, List.isEmpty_iff]
    intro hnil
    rw [dropLastBlanks, dropBlanks, hnil] at h
    exact h rfl
  unfold dropLastBlanks dropBlanks
  rw [List.reverse_append, List.dropWhile_append, hsome, if_neg Bool.false_ne_true,
    List.reverse_append, List.reverse_reverse]

theorem dropLastBlanks_cons {c : Char} (hc : isBlank c = false) (cs : List Char) :
    ∃ rest, dropLastBlanks (c :: cs) = c :: rest := by
  unfold dropLastBlanks dropBlanks
  rw [List.reverse_cons, List.dropWhile_append,
    List.dropWhile_cons_of_neg (Bool.eq_false_iff.mp hc)]
  split
  · exact ⟨[], rfl⟩
  · exact ⟨_, by rw [List.reverse_append]; rfl⟩

theorem delimit_tsql (text : String) : Dialect.delimit .tsql text false
    = .ok (String.ofList (limitToTop (stripQuotes false text.toList))) := rfl

/-- Where a `TOP` is put. -/
theorem limitToTop_limit {digits keyword : List Char} (hnumber : digits ≠ [])
    (hdigits : ∀ c ∈ digits, c.isDigit = true)
    (hbefore : dropLastBlanks cs = keyword ++ (blanks ++ rest))
    (hlength : selectLength? (keyword ++ (blanks ++ rest)) = some (keyword ++ blanks).length) :
    limitToTop (cs ++ " LIMIT ".toList ++ digits)
      = keyword ++ blanks ++ "TOP ".toList ++ digits ++ ' ' :: rest := by
  unfold limitToTop
  rw [splitLimit?_limit hnumber hdigits, hbefore]
  dsimp only
  rw [hlength, ← List.append_assoc]
  dsimp only
  rw [List.take_left' rfl, List.drop_left' rfl]

/-- What does not begin with `SELECT` loses its limit. -/
theorem limitToTop_lost {digits : List Char} (hnumber : digits ≠ [])
    (hdigits : ∀ c ∈ digits, c.isDigit = true)
    (hnone : selectLength? (dropLastBlanks cs) = none) :
    limitToTop (cs ++ " LIMIT ".toList ++ digits) = dropLastBlanks cs := by
  unfold limitToTop
  rw [splitLimit?_limit hnumber hdigits]
  dsimp only
  rw [hnone]

end Dialect

/-! ## Queries with a limit -/

/-- The words that a `SELECT` begins with. -/
def Select.keyword (s : Select) : String :=
  match s.distinct with
  | .unstated => "SELECT"
  | _ => "SELECT DISTINCT"

theorem Select.topText_blank (s : Select) : ∃ more, s.topText ++ " " = " " ++ more := by
  unfold Select.topText
  cases s.top with
  | unstated => exact ⟨"", rfl⟩
  | count n percent withTies =>
      refine ⟨"TOP " ++ toString n ++ topWords percent withTies ++ " ", ?_⟩
      show " " ++ "TOP " ++ toString n ++ topWords percent withTies ++ " " = _
      simp only [String.append_assoc]
  | computed percent withTies =>
      refine ⟨"TOP (" ++ s.topCount.after "" ++ ")" ++ topWords percent withTies ++ " ", ?_⟩
      show " " ++ "TOP (" ++ s.topCount.after "" ++ ")" ++ topWords percent withTies ++ " " = _
      simp only [String.append_assoc]

theorem Select.leadText_keyword (s : Select) :
    ∃ more, s.leadText = s.keyword ++ " " ++ more := by
  obtain ⟨more, hmore⟩ := s.topText_blank
  unfold Select.leadText Select.keyword Select.distinctText
  rw [String.append_assoc, hmore]
  cases s.distinct with
  | unstated => exact ⟨more, by rw [String.append_empty, String.append_assoc]⟩
  | distinct => exact ⟨more, by rw [← String.append_assoc]; rfl⟩
  | on =>
      refine ⟨"ON (" ++ commas s.distinctOn.texts ++ ")" ++ (" " ++ more), ?_⟩
      show "SELECT" ++ (" DISTINCT" ++ " " ++ "ON (" ++ commas s.distinctOn.texts ++ ")") ++ _
        = "SELECT" ++ " DISTINCT" ++ " " ++ _
      simp only [String.append_assoc]

/-- What follows the words that a `SELECT` begins with. -/
theorem Select.text_keyword (s : Select) : ∃ more, s.text = s.keyword ++ " " ++ more := by
  obtain ⟨more, hmore⟩ := s.leadText_keyword
  rw [s.text_eq, hmore]
  simp only [String.append_assoc]
  exact ⟨_, rfl⟩

namespace Query

/-- The query without its limit. -/
def unlimited (q : Query) : Query := { q with limit := .none }

/-- The text of a query ends with its limit, which is a plain number. -/
structure EndsWithLimit (q : Query) (digits : String) : Prop where
  limit : q.limit = .some (.literal (.number digits false))
  number : digits ≠ ""
  digits : ∀ c ∈ digits.toList, c.isDigit = true
  offset : q.offset = .none
  fetch : q.fetch = none
  locks : q.locks = []
  form : q.form = none

variable {q : Query} {s : Select} {digits : String}

theorem EndsWithLimit.digits_ne_nil (h : q.EndsWithLimit digits) : digits.toList ≠ [] :=
  fun hnil => h.number (String.toList_eq_nil_iff.mp hnil)

theorem text_endsWithLimit (h : q.EndsWithLimit digits) :
    q.text = q.unlimited.text ++ " LIMIT " ++ digits := by
  obtain ⟨recursive, tables, body, order, limit, offset, offsetWord, fetch, locks, form⟩ := q
  obtain ⟨hlimit, -, -, hoffset, hfetch, hlocks, hform⟩ := h
  dsimp only at hlimit hoffset hfetch hlocks hform
  subst hlimit hoffset hfetch hlocks hform
  show withText recursive tables.texts ++ body.text ++ _ ++ (" LIMIT " ++ (digits ++ "")) ++ ""
      ++ "" ++ "" ++ ""
    = withText recursive tables.texts ++ body.text ++ _ ++ "" ++ "" ++ "" ++ "" ++ "" ++ " LIMIT "
      ++ digits
  simp only [String.append_empty, String.append_assoc]

/-- A plain query without its limit begins with the words of its `SELECT`. -/
theorem text_unlimited_keyword (hs : q.body = .select s) (htables : q.tables = .nil)
    (h : q.EndsWithLimit digits) :
    ∃ more, q.unlimited.text = s.keyword ++ " " ++ more := by
  obtain ⟨more, hmore⟩ := s.text_keyword
  have hbody : q.unlimited.body.text = s.text := congrArg Body.text hs
  rw [text_unlimited (q := q.unlimited) rfl h.offset, hbody]
  have hnone : withText q.unlimited.recursive q.unlimited.tables.texts = "" := by
    unfold unlimited
    rw [htables]
    rfl
  rw [hnone, String.empty_append, hmore]
  simp only [String.append_assoc]
  exact ⟨_, rfl⟩

theorem stripQuotes_endsWithLimit (h : q.EndsWithLimit digits) :
    stripQuotes false q.text.toList
      = stripQuotes false q.unlimited.text.toList ++ " LIMIT ".toList ++ digits.toList := by
  have hnone : ∀ c ∈ " LIMIT ".toList ++ digits.toList, c ≠ '\'' ∧ c ≠ '"' := by
    intro c hc
    obtain hc | hc := List.mem_append.mp hc
    · exact noQuotes_of_all (by decide) c hc
    · exact of_decide_eq_true
        (of_isDigit (p := fun c => decide (c ≠ '\'' ∧ c ≠ '"')) (by decide) (h.digits c hc))
  rw [text_endsWithLimit h, String.toList_append, String.toList_append, List.append_assoc,
    stripQuotes_append hnone false _ nofun, List.append_assoc]

/-- A limit is moved behind the words that the query begins with.  What follows these has to be
something else than blanks, and not the word `DISTINCT`, which a name may be. -/
theorem delimit_limit (hs : q.body = .select s) (htables : q.tables = .nil)
    (h : q.EndsWithLimit digits) : ∃ more, q.unlimited.text = s.keyword ++ " " ++ more
      ∧ ∀ blanks rest, dropLastBlanks (stripQuotes false more.toList) = blanks ++ rest →
        Blanks blanks rest →
        (s.distinct = .unstated → ¬ BeginsWith "distinct".toList rest) →
        Dialect.delimit .tsql q.text false = .ok (s.keyword ++ " " ++ String.ofList blanks ++ "TOP "
          ++ digits ++ " " ++ String.ofList rest) := by
  obtain ⟨more, hmore⟩ := text_unlimited_keyword hs htables h
  refine ⟨more, hmore, fun blanks rest hrest hblanks hword => ?_⟩
  have hkeyword : ∀ c ∈ s.keyword.toList ++ [' '], c ≠ '\'' ∧ c ≠ '"' := by
    unfold Select.keyword
    cases s.distinct <;> exact noQuotes_of_all (by decide)
  -- The first words have no quotes, so they stay and only what follows them is edited.
  have hbefore : dropLastBlanks (stripQuotes false q.unlimited.text.toList)
      = s.keyword.toList ++ ((' ' :: blanks) ++ rest) := by
    have hsome : dropLastBlanks (stripQuotes false more.toList) ≠ [] := by
      obtain ⟨-, c, cs, rfl, -⟩ := hblanks
      rw [hrest]
      exact List.append_ne_nil_of_right_ne_nil _ (List.cons_ne_nil c cs)
    rw [hmore, String.toList_append, String.toList_append]
    show dropLastBlanks (stripQuotes false (s.keyword.toList ++ [' '] ++ more.toList)) = _
    rw [stripQuotes_lead hkeyword, dropLastBlanks_append hsome, hrest, List.append_assoc]
    rfl
  -- The blanks that a quoted name begins with are skipped like the one behind the keyword.
  have hall : Blanks (' ' :: blanks) rest :=
    ⟨List.forall_mem_cons.mpr ⟨rfl, hblanks.blank⟩, hblanks.rest⟩
  have hlength : selectLength? (s.keyword.toList ++ ((' ' :: blanks) ++ rest))
      = some (s.keyword.toList ++ ' ' :: blanks).length := by
    unfold Select.keyword
    cases hdistinct : s.distinct with
    | unstated => exact selectLength?_select hall (List.cons_ne_nil _ _) (hword hdistinct)
    | distinct => exact selectLength?_distinct hall (List.cons_ne_nil _ _)
    | on => exact selectLength?_distinct hall (List.cons_ne_nil _ _)
  have htop := limitToTop_limit h.digits_ne_nil h.digits hbefore hlength
  rw [← stripQuotes_endsWithLimit h] at htop
  rw [delimit_tsql, htop, Except.ok.injEq, ← String.toList_inj]
  simp

/-- Of a query with common tables the limit is lost. -/
theorem delimit_limit_lost (htables : q.tables ≠ .nil) (h : q.EndsWithLimit digits) :
    Dialect.delimit .tsql q.text false
      = .ok (String.ofList (dropLastBlanks (stripQuotes false q.unlimited.text.toList))) := by
  obtain ⟨more, hmore⟩ : ∃ more, q.unlimited.text = "WITH " ++ more := by
    have htexts : ∃ t ts, q.unlimited.tables.texts = t :: ts := by
      show ∃ t ts, q.tables.texts = t :: ts
      cases htables' : q.tables with
      | nil => exact absurd htables' htables
      | cons => exact ⟨_, _, rfl⟩
    obtain ⟨t, ts, htexts⟩ := htexts
    rw [text_unlimited (q := q.unlimited) rfl h.offset, htexts]
    show ∃ more, "WITH " ++ _ ++ _ ++ _ ++ _ ++ _ ++ _ ++ _ ++ _ = "WITH " ++ more
    simp only [String.append_assoc]
    exact ⟨_, rfl⟩
  -- The text begins with another word, so there is no place to put the limit.
  have hnone : selectLength? (dropLastBlanks (stripQuotes false q.unlimited.text.toList))
      = none := by
    have hlead : ∀ c ∈ "WITH ".toList, c ≠ '\'' ∧ c ≠ '"' := noQuotes_of_all (by decide)
    rw [hmore, String.toList_append, stripQuotes_lead hlead]
    obtain ⟨rest, hrest⟩ := dropLastBlanks_cons (by decide : isBlank 'W' = false)
      ("ITH ".toList ++ stripQuotes false more.toList)
    show selectLength? (dropLastBlanks
      ('W' :: ("ITH ".toList ++ stripQuotes false more.toList))) = _
    rw [hrest]
    rfl
  have hlost := limitToTop_lost h.digits_ne_nil h.digits hnone
  rw [← stripQuotes_endsWithLimit h] at hlost
  rw [delimit_tsql, hlost]

/-- Without a limit nothing is taken for one, unless it is in the name that the query ends with. -/
theorem delimit_unlimited (hs : q.body = .select s) (hlimit : q.limit = .none)
    (hoffset : q.offset = .none) (h : ¬ LimitLike q.closing) :
    Dialect.delimit .tsql q.text false
      = .ok (String.ofList (stripQuotes false q.text.toList)) := by
  have hnone : splitLimit? (stripQuotes false q.text.toList) = none := by
    by_contra hsome
    obtain ⟨found, hfound⟩ := Option.ne_none_iff_exists'.mp hsome
    exact h (closes_query hs hlimit hoffset (limitLike_of_splitLimit hfound))
  rw [delimit_tsql, limitToTop, hnone]

end Query

end QueryReport.Sql
