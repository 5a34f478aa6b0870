import Mathlib

/-! Rows handed out in pages, each with a cursor from which to ask for the next. -/

namespace Cl8yDexBots.Foundation.Cursor

section Fetching

variable {κ ρ : Type}

/-- Asking from a cursor on, until a page has no next one. -/
inductive Fetch (query : Option κ → List ρ × Option κ) : Option κ → List ρ → Prop
  | last {start rows} (h : query start = (rows, none)) : Fetch query start rows
  | next {start rows cursor more} (h : query start = (rows, some cursor)) (rest : Fetch query (some cursor) more) :
      Fetch query start (rows ++ more)

lemma Fetch.unique {query : Option κ → List ρ × Option κ} {start : Option κ} {out out' : List ρ}
    (h : Fetch query start out) (h' : Fetch query start out') : out' = out := by
  induction h generalizing out' with
  | last h =>
    cases h' with
    | last h' =>
      rw [h] at h'
      cases h'
      rfl
    | next h' =>
      rw [h] at h'
      cases h'
  | next h _ ih =>
    cases h' with
    | last h' =>
      rw [h] at h'
      cases h'
    | next h' rest' =>
      rw [h] at h'
      cases h'
      rw [ih rest']

end Fetching

section Skimming

variable {α : Type} {limit : ℕ}

/-- What is left of some rows if one goes missing after every `limit` of them. -/
def skim (limit : ℕ) (rows : List α) : List α :=
  if rows.length ≤ limit then rows else rows.take limit ++ skim limit (rows.drop (limit + 1))
termination_by rows.length
decreasing_by
  rw [List.length_drop]
  omega

lemma skim_sublist (rows : List α) : (skim limit rows).Sublist rows := by
  induction rows using skim.induct limit with
  | case1 rows h =>
    rw [skim, if_pos h]
  | case2 rows h ih =>
    rw [skim, if_neg h]
    conv_rhs => rw [← List.take_append_drop limit rows]
    apply List.Sublist.append_left
    apply ih.trans
    rw [← List.drop_drop]
    exact List.drop_sublist ..

lemma skim_length (rows : List α) : (skim limit rows).length + rows.length / (limit + 1) = rows.length := by
  induction rows using skim.induct limit with
  | case1 rows h =>
    rw [skim, if_pos h, Nat.div_eq_of_lt (by omega)]
    rfl
  | case2 rows h ih =>
    rw [skim, if_neg h, List.length_append, List.length_take]
    rw [List.length_drop] at ih
    have hdiv : rows.length / (limit + 1) = (rows.length - (limit + 1)) / (limit + 1) + 1 :=
      Nat.div_eq_sub_div (by omega) (by omega)
    omega

lemma skim_eq_self_iff {rows : List α} : skim limit rows = rows ↔ rows.length ≤ limit := by
  constructor
  · intro h
    have hlength : (skim limit rows).length + rows.length / (limit + 1) = rows.length := skim_length rows
    rw [h] at hlength
    have hdiv : rows.length / (limit + 1) = 0 := by omega
    exact Nat.lt_succ_iff.mp ((Nat.div_eq_zero_iff_lt (by omega)).mp hdiv)
  · intro h
    rw [skim, if_pos h]

end Skimming

section Paging

variable {κ α ρ : Type} [LinearOrder κ] {limit : ℕ} {rows : List (κ × α)} (f : κ × α → ρ)

def beyond (start : Option κ) (rows : List (κ × α)) : List (κ × α) :=
  rows.filter fun row => start.all fun cursor => decide (cursor < row.1)

def page (limit : ℕ) (rows : List (κ × α)) : List ρ × Option κ :=
  ((rows.take limit).map f, rows[limit]?.map Prod.fst)

lemma beyond_split {before rest : List (κ × α)} {row : κ × α}
    (hsorted : (before ++ row :: rest).Pairwise fun a b => a.1 < b.1) :
    beyond (some row.1) (before ++ row :: rest) = rest := by
  obtain ⟨-, hrest, hbefore⟩ := List.pairwise_append.mp hsorted
  have hnone : before.filter (fun r => decide (row.1 < r.1)) = [] := by
    rw [List.filter_eq_nil_iff]
    intro r hr
    simpa using (hbefore r hr row (List.mem_cons_self ..)).le
  have hall : rest.filter (fun r => decide (row.1 < r.1)) = rest := by
    rw [List.filter_eq_self]
    intro r hr
    simpa using (List.pairwise_cons.mp hrest).1 r hr
  simp only [beyond, Option.all_some, List.filter_append, List.filter_cons, lt_self_iff_false, decide_false, hnone,
    hall, List.nil_append, Bool.false_eq_true, if_false]

/-- A cursor that names the row after the page, and is left out of the next, loses one row a page. -/
theorem fetch_skims (hsorted : rows.Pairwise fun a b => a.1 < b.1) :
    Fetch (fun start => page f limit (beyond start rows)) none ((skim limit rows).map f) := by
  -- the rows that are left are always the ones beyond the cursor
  have hfrom : ∀ rest before : List (κ × α), rows = before ++ rest → ∀ start, beyond start rows = rest →
      Fetch (fun start => page f limit (beyond start rows)) start ((skim limit rest).map f) := by
    intro rest
    induction rest using skim.induct limit with
    | case1 rest h =>
      intro before hrows start hstart
      rw [skim, if_pos h]
      apply Fetch.last
      rw [hstart, page, List.take_of_length_le h, List.getElem?_eq_none h]
      rfl
    | case2 rest h ih =>
      intro before hrows start hstart
      have hlt : limit < rest.length := by omega
      have hrest : rest = rest.take limit ++ rest[limit] :: rest.drop (limit + 1) := by
        rw [← List.drop_eq_getElem_cons hlt, List.take_append_drop]
      have hsplit : rows = (before ++ rest.take limit) ++ rest[limit] :: rest.drop (limit + 1) := by
        rw [hrows, List.append_assoc, ← hrest]
      have hnext : page f limit (beyond start rows) = ((rest.take limit).map f, some rest[limit].1) := by
        rw [hstart, page, List.getElem?_eq_getElem hlt]
        rfl
      have hbeyond : beyond (some rest[limit].1) rows = rest.drop (limit + 1) := by
        rw [hsplit] at hsorted ⊢
        exact beyond_split hsorted
      rw [skim, if_neg h, List.map_append]
      have hpast : rows = before ++ rest.take limit ++ [rest[limit]] ++ rest.drop (limit + 1) := by
        rw [List.append_assoc, List.singleton_append, ← hsplit]
      exact .next hnext (ih _ hpast _ hbeyond)
  exact hfrom rows [] rfl none (List.filter_eq_self.mpr fun _ _ => rfl)

end Paging

end Cl8yDexBots.Foundation.Cursor
