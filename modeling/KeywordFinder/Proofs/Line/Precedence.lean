import KeywordFinder.Proofs.Line.Fragments

/-!
# The first role that matches

A matcher reports a line in the first active role that matches it, and the selection matters only through the set
of roles that it makes active (`Matcher.find?_by_precedence`).  The roles of a matcher stand in the order of
precedence (`Role.pairwise_ordered`), and the check on comments before them is one that every role makes itself
(`Matcher.find?_eq_findSome?`).
-/

namespace KeywordFinder

namespace Role

/-- The place of a role in the order of precedence. -/
def rank : Role → Nat
  | classDecl => 0
  | functionDecl => 1
  | assignment => 2
  | otherUse => 3

/-- A selection makes the roles in it active, and all roles if it is empty. -/
def Active (selection : List Role) (r : Role) : Prop := selection = [] ∨ r ∈ selection

instance (selection : List Role) (r : Role) : Decidable (Active selection r) :=
  inferInstanceAs (Decidable (_ ∨ _))

/-- The active roles are tried in the order of precedence, each of them once. -/
theorem pairwise_ordered (selection : List Role) :
    (ordered selection).Pairwise fun r r' => r.rank < r'.rank := by
  have hall : all.Pairwise fun r r' => r.rank < r'.rank := by decide
  rw [ordered]
  split
  · exact hall
  · exact hall.sublist List.filter_sublist

/-- A match names the role that it is a match of. -/
theorem role_of_match? {role : Role} {k : Keyword} {line : Text} {r : Match}
    (h : role.match? k line = some r) : r.role = role := by
  rcases form_of_match? h with ⟨_, _, _, _, _, -, rfl⟩ | ⟨_, _, _, _, -, rfl⟩ | ⟨_, _, _, -, rfl⟩ <;> rfl

theorem match?_of_isCommentLine {role : Role} {k : Keyword} {line : Text} (h : isCommentLine line = true) :
    role.match? k line = none := by
  unfold match?
  rw [h]
  rfl

end Role

/-- The first result in a list that is sorted by `rank` is the one of the least rank. -/
private theorem findSome?_eq_some_iff_of_pairwise {α β : Type} {rank : α → Nat} {f : α → Option β}
    {l : List α} (hl : l.Pairwise fun a a' => rank a < rank a') {b : β} :
    l.findSome? f = some b ↔ ∃ a ∈ l, f a = some b ∧ ∀ a' ∈ l, rank a' < rank a → f a' = none := by
  constructor
  · intro h
    obtain ⟨l₁, a, l₂, rfl, ha, hnone⟩ := List.findSome?_eq_some_iff.1 h
    refine ⟨a, by simp, ha, fun a' ha' hlt => ?_⟩
    rcases List.mem_append.1 ha' with h₁ | h₂
    · exact hnone a' h₁
    · -- an element that is not before `a` has no smaller rank
      have hafter := (List.pairwise_cons.1 (List.pairwise_append.1 hl).2.1).1
      rcases List.mem_cons.1 h₂ with rfl | h₂
      · omega
      · have := hafter a' h₂
        omega
  · rintro ⟨a, hmem, ha, hnone⟩
    obtain ⟨l₁, l₂, rfl⟩ := List.append_of_mem hmem
    refine List.findSome?_eq_some_iff.2 ⟨l₁, a, l₂, rfl, ha, fun a' ha' => ?_⟩
    exact hnone a' (by simp [ha']) ((List.pairwise_append.1 hl).2.2 a' ha' a (by simp))

namespace Matcher

/-- Each role refuses comments itself, so a matcher needs no check of its own. -/
theorem find?_eq_findSome? (m : Matcher) (line : Text) :
    m.find? line = m.roles.findSome? (·.match? m.keyword line) := by
  rw [find?]
  split
  · next h =>
    symm
    rw [List.findSome?_eq_none_iff]
    exact fun role _ => Role.match?_of_isCommentLine h
  · rfl

theorem find?_eq_some_iff {k : Keyword} {selection : List Role} {line : Text} {r : Match} :
    find? ⟨k, Role.ordered selection⟩ line = some r ↔
      ∃ role, Role.Active selection role ∧ role.match? k line = some r ∧
        ∀ role', Role.Active selection role' → role'.rank < role.rank → role'.match? k line = none := by
  rw [find?_eq_findSome?, findSome?_eq_some_iff_of_pairwise (Role.pairwise_ordered selection)]
  simp only [Role.mem_ordered]
  rfl

theorem find?_eq_none_iff {k : Keyword} {selection : List Role} {line : Text} :
    find? ⟨k, Role.ordered selection⟩ line = none ↔
      ∀ role, Role.Active selection role → role.match? k line = none := by
  rw [find?_eq_findSome?, List.findSome?_eq_none_iff]
  simp only [Role.mem_ordered]
  rfl

/-- What a matcher reports is the match of the role that it names. -/
theorem match?_of_find? {m : Matcher} {line : Text} {r : Match} (h : m.find? line = some r) :
    r.role.match? m.keyword line = some r := by
  obtain ⟨role, -, hmatch⟩ := exists_of_find? h
  rw [Role.role_of_match? hmatch]
  exact hmatch

/-- A line that an active role matches is reported in that role or an earlier one. -/
theorem exists_find?_of_match? {k : Keyword} {selection : List Role} {line : Text} {role : Role} {r : Match}
    (hactive : Role.Active selection role) (h : role.match? k line = some r) :
    ∃ r', find? ⟨k, Role.ordered selection⟩ line = some r' ∧ r'.role.rank ≤ role.rank := by
  cases hfind : find? ⟨k, Role.ordered selection⟩ line with
  | none =>
    rw [find?_eq_none_iff.1 hfind role hactive] at h
    cases h
  | some r' =>
    obtain ⟨role', -, hmatch, hearlier⟩ := find?_eq_some_iff.1 hfind
    refine ⟨r', rfl, ?_⟩
    rw [Role.role_of_match? hmatch]
    by_contra hlater
    rw [hearlier role hactive (by omega)] at h
    cases h

/-- The result for a line is that of the earliest active role that matches it.  So selections that make the same
roles active give the same results, and dropping roles does not change a result if its own role is kept. -/
theorem find?_by_precedence {k : Keyword} {selection : List Role} {m : Matcher}
    (hm : build? k selection = some m) (line : Text) :
    (∀ r, m.find? line = some r ↔
      ∃ role, Role.Active selection role ∧ role.match? k line = some r ∧
        ∀ role', Role.Active selection role' → role'.rank < role.rank → role'.match? k line = none) ∧
    (m.find? line = none ↔ ∀ role, Role.Active selection role → role.match? k line = none) ∧
    (∀ selection', (∀ role, Role.Active selection' role ↔ Role.Active selection role) →
      ∃ m', build? k selection' = some m' ∧ m'.find? line = m.find? line) ∧
    (∀ selection' r, (∀ role, Role.Active selection' role → Role.Active selection role) →
      m.find? line = some r → Role.Active selection' r.role →
      ∃ m', build? k selection' = some m' ∧ m'.find? line = some r) := by
  obtain ⟨hfits, rfl⟩ := build?_eq_some_iff.1 hm
  refine ⟨fun r => find?_eq_some_iff, find?_eq_none_iff, ?_, ?_⟩
  · intro selection' hsame
    refine ⟨⟨k, Role.ordered selection'⟩, build?_eq_some_iff.2 ⟨hfits, rfl⟩, ?_⟩
    apply Option.ext
    intro r
    simp only [find?_eq_some_iff, hsame]
  · intro selection' r hsub hr hactive
    refine ⟨⟨k, Role.ordered selection'⟩, build?_eq_some_iff.2 ⟨hfits, rfl⟩, ?_⟩
    obtain ⟨role, -, hmatch, hnone⟩ := find?_eq_some_iff.1 hr
    rw [Role.role_of_match? hmatch] at hactive
    exact find?_eq_some_iff.2 ⟨role, hactive, hmatch, fun role' h => hnone role' (hsub role' h)⟩

/-- `x = y.x` assigns to `x` and uses it. -/
theorem find?_by_precedence_assignment :
    let k : Keyword := ⟨['x'], false⟩
    let selection : List Role := [.otherUse, .assignment, .otherUse]
    let m : Matcher := ⟨k, [.assignment, .otherUse]⟩
    let line : Text := ['x', ' ', '=', ' ', 'y', '.', 'x']
    let r : Match := ⟨.assignment, [['x'], [' '], ['='], [' ', 'y', '.', 'x']], 0⟩
    build? k selection = some m ∧ m.find? line = some r ∧
      (∃ role, Role.Active selection role ∧ role.match? k line = some r ∧
        ∀ role', Role.Active selection role' → role'.rank < role.rank → role'.match? k line = none) ∧
      ∃ m', build? k [.assignment] = some m' ∧ m'.find? line = some r := by
  intro k selection m line r
  have hm : build? k selection = some m := by decide
  have hr : m.find? line = some r := by decide +kernel
  have hsub : ∀ role, Role.Active [.assignment] role → Role.Active selection role := by
    intro role
    cases role <;> decide
  obtain ⟨hsome, -, -, hkept⟩ := find?_by_precedence hm line
  exact ⟨hm, hr, (hsome r).1 hr, hkept [.assignment] r hsub hr (by decide)⟩

end Matcher

end KeywordFinder
