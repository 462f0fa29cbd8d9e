import KeywordFinder.Glob.Matching
import KeywordFinder.Proofs.Glob.Signs

/-!
# Putting signs together

Signs make up shapes if each of them has its place among the open groups and all groups are closed at the end
(`exists_assemble_iff`).  Without double stars this is done from left to right, whatever follows (`assemble_append`).
-/

namespace KeywordFinder

/-! ### Open groups -/

/-- The number of open groups behind a sign, if the sign has a place there. -/
def GlobSign.depth? : Nat → GlobSign → Option Nat
  | d, openGroup => some (d + 1)
  | 0, closeGroup => none
  | d + 1, closeGroup => some d
  | _, problem _ => none
  | d, _ => some d

/-- The number of open groups behind signs, if each of them has a place there. -/
def depthAfter? (d : Nat) (signs : List GlobSign) : Option Nat := signs.foldlM GlobSign.depth? d

theorem depthAfter?_append (d : Nat) (signs more : List GlobSign) :
    depthAfter? d (signs ++ more) = (depthAfter? d signs).bind (depthAfter? · more) := List.foldlM_append

theorem depthAfter?_cons (d : Nat) (sign : GlobSign) (signs : List GlobSign) :
    depthAfter? d (sign :: signs) = (sign.depth? d).bind (depthAfter? · signs) := List.foldlM_cons

/-- A problem has no place. -/
theorem clear_of_depthAfter? {d e : Nat} {signs : List GlobSign} (h : depthAfter? d signs = some e) : Clear signs := by
  induction signs generalizing d with
  | nil => exact fun problem => List.not_mem_nil
  | cons sign signs ih =>
    rw [depthAfter?_cons] at h
    obtain ⟨d', hsign, hlater⟩ := Option.bind_eq_some_iff.1 h
    refine (clear_cons ?_).2 (ih hlater)
    rintro problem rfl
    simp [GlobSign.depth?] at hsign

/-! ### One sign -/

/-- Whether no branch that is being put together has directories in front. -/
def Leadless (groups : List OpenGroup) (branch : List Shape) : Prop :=
  .atom .leadingDirs ∉ branch ∧ ∀ g ∈ groups, .atom .leadingDirs ∉ g.around

private theorem groupShape_ne_atom (branches : List (List Shape)) (a : Atom) : groupShape branches ≠ .atom a := by
  have hbranch : ∀ branch, branchShape branch ≠ .atom a := by
    intro branch
    rw [branchShape]
    cases branch.reverse <;> simp [Shape.ofList]
  rw [groupShape]
  generalize branches.reverse.filter (·.any (· ≠ .nothing)) = kept
  match kept with
  | [] => simp [Shape.ofChoices]
  | [branch] => exact hbranch branch
  | _ :: _ :: _ => simp [Shape.ofChoices]

/-- A sign other than a double star has no place, or it changes the open groups and the branch whatever stands around
it. -/
theorem assemble_cons {sign : GlobSign} (hsign : sign ≠ .doubleStar) (groups : List OpenGroup) (branch : List Shape) :
    (sign.depth? groups.length = none ∧
        ∀ before signs shapes, assemble groups branch before false (sign :: signs) ≠ .ok shapes) ∨
      ∃ groups' branch', sign.depth? groups.length = some groups'.length ∧
        (Leadless groups branch → Leadless groups' branch') ∧
        ∀ before signs, assemble groups branch before false (sign :: signs) =
          assemble groups' branch' (some sign.lastChar) false signs := by
  have hpush : ∀ s, s ≠ .atom .leadingDirs → Leadless groups branch → Leadless groups (s :: branch) :=
    fun s hs h => ⟨by simp [h.1, hs.symm], h.2⟩
  cases sign with
  | doubleStar => exact absurd rfl hsign
  | problem problem => exact .inl ⟨rfl, fun before signs shapes => by simp [assemble]⟩
  | literal c escaped => exact .inr ⟨_, _, rfl, hpush _ (by simp), fun before signs => rfl⟩
  | question => exact .inr ⟨_, _, rfl, hpush _ (by simp), fun before signs => rfl⟩
  | star => exact .inr ⟨_, _, rfl, hpush _ (by simp), fun before signs => rfl⟩
  | oneOf negated ranges => exact .inr ⟨_, _, rfl, hpush _ (by simp), fun before signs => rfl⟩
  | openGroup =>
    refine .inr ⟨⟨branch, []⟩ :: groups, [], rfl, fun h => ⟨List.not_mem_nil, ?_⟩, fun before signs => rfl⟩
    exact List.forall_mem_cons.2 h
  | closeGroup =>
    cases groups with
    | nil => exact .inl ⟨rfl, fun before signs shapes => by simp [assemble]⟩
    | cons g outer =>
      refine .inr ⟨outer, groupShape (branch :: g.branches) :: g.around, rfl, ?_, fun before signs => rfl⟩
      rintro ⟨-, hgroups⟩
      obtain ⟨haround, houter⟩ := List.forall_mem_cons.1 hgroups
      exact ⟨by simp [haround, (groupShape_ne_atom _ _).symm], houter⟩
  | comma =>
    cases groups with
    | nil => exact .inr ⟨_, _, rfl, hpush _ (by simp), fun before signs => rfl⟩
    | cons g outer =>
      refine .inr ⟨⟨g.around, branch :: g.branches⟩ :: outer, [], rfl, ?_, fun before signs => rfl⟩
      rintro ⟨-, hgroups⟩
      exact ⟨List.not_mem_nil, List.forall_mem_cons.2 (List.forall_mem_cons.1 hgroups)⟩

/-! ### All signs -/

private theorem eq_slash_of_firstChar {sign : GlobSign} (h : sign.firstChar = '/') : sign = .literal '/' false := by
  cases sign <;> grind [GlobSign.firstChar]

/-- Signs make up shapes if each of them has a place among the open groups and all groups are closed behind them.  A
sign that is skipped is a slash. -/
theorem exists_assemble_iff {groups : List OpenGroup} {branch : List Shape} {before : Option Char} {skip : Bool}
    {signs : List GlobSign} (hskip : skip = true → signs.head? = some (.literal '/' false)) :
    (∃ shapes, assemble groups branch before skip signs = .ok shapes) ↔ depthAfter? groups.length signs = some 0 := by
  induction signs generalizing groups branch before skip with
  | nil =>
    rw [assemble]
    cases groups <;> simp [depthAfter?]
  | cons sign signs ih =>
    rw [depthAfter?_cons]
    cases skip with
    | true =>
      obtain rfl : sign = .literal '/' false := Option.some.inj (hskip rfl)
      exact ih (by simp)
    | false =>
      by_cases hsign : sign = .doubleStar
      · subst hsign
        simp only [assemble, Bool.false_eq_true, if_false]
        split
        · exact ih (by simp)
        · -- a double star takes the slash behind it
          refine ih fun hslash => ?_
          obtain ⟨next, hnext, hchar⟩ := Option.map_eq_some_iff.1 (of_decide_eq_true hslash)
          rw [hnext, eq_slash_of_firstChar hchar]
      · rcases assemble_cons hsign groups branch with ⟨hdepth, hno⟩ | ⟨groups', branch', hdepth, -, hstep⟩
        · simp [hdepth, hno]
        · rw [hdepth, hstep, ih (by simp)]
          rfl

/-- Signs without double stars are put together from left to right, and they make up no directories in front. -/
theorem assemble_append {groups : List OpenGroup} {branch : List Shape} {before : Option Char}
    {signs : List GlobSign} {shapes : List Shape} (hstars : .doubleStar ∉ signs) (hlead : Leadless groups branch)
    (h : assemble groups branch before false signs = .ok shapes) :
    .atom .leadingDirs ∉ shapes ∧ ∃ last, ∀ more,
      assemble groups branch before false (signs ++ more) = assemble [] shapes.reverse last false more := by
  induction signs generalizing groups branch before with
  | nil =>
    rw [assemble] at h
    cases groups with
    | nil =>
      cases h
      exact ⟨by simpa using hlead.1, before, fun more => by rw [List.nil_append, List.reverse_reverse]⟩
    | cons g outer => cases h
  | cons sign signs ih =>
    obtain ⟨hsign, hlater⟩ := List.ne_and_not_mem_of_not_mem_cons hstars
    rcases assemble_cons hsign.symm groups branch with ⟨-, hno⟩ | ⟨groups', branch', -, hkeeps, hstep⟩
    · exact absurd h (hno before signs shapes)
    · rw [hstep] at h
      simp only [List.cons_append, hstep]
      exact ih hlater (hkeeps hlead) h

end KeywordFinder
