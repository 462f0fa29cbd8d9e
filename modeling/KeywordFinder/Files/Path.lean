import KeywordFinder.Text.Utf8

/-!
# Paths

A path is a byte string of components between slashes.  Slashes and `.` components at its end carry no
meaning for its last component, its parent and its extension; inside and in front they stay as written.
-/

namespace KeywordFinder

/-- A path as it is written. -/
abbrev Path := Bytes

/-- The byte between components. -/
def slash : UInt8 := 0x2F

/-- The byte in front of an extension. -/
def dot : UInt8 := 0x2E

namespace Path

/-- Whether a path starts at the root. -/
def isAbsolute (p : Path) : Bool := p.head? == some slash

/-- Drops slashes and `.` components from the front of a reversed path, but keeps a root and a `.` that
is all of the path. -/
def trimReversed : Bytes → Bytes
  | [] => []
  | b :: s =>
    if b = slash then (if s.isEmpty then [slash] else trimReversed s)
    else if b = dot && s.head? == some slash then trimReversed s
    else b :: s

/-- The path without slashes and `.` components at its end. -/
def trimmed (p : Path) : Path := (trimReversed p.reverse).reverse

/-- The path above the last component, if there is one. -/
def parent? (p : Path) : Option Path :=
  match trimReversed p.reverse with
  | [] => none
  | r => if r = [slash] then none else some (trimReversed (r.dropWhile (· ≠ slash))).reverse

private theorem length_trimReversed_le (s : Bytes) : (trimReversed s).length ≤ s.length := by
  fun_induction trimReversed s <;> simp_all <;> omega

private theorem trimReversed_slash {s t : Bytes} (h : trimReversed s = slash :: t) : t = [] := by
  fun_induction trimReversed s <;> simp_all

/-- A path is longer than the one above it. -/
theorem length_parent {p q : Path} (h : parent? p = some q) : q.length < p.length := by
  unfold parent? at h
  have hp := length_trimReversed_le p.reverse
  rw [List.length_reverse] at hp
  revert h hp
  cases hr : trimReversed p.reverse with
  | nil => simp
  | cons b r =>
    intro h hp
    simp only at h
    split at h
    · exact absurd h (by simp)
    · next hne =>
      have hb : b ≠ slash := by
        rintro rfl
        exact hne (by rw [trimReversed_slash hr])
      have hd := length_trimReversed_le ((b :: r).dropWhile (· ≠ slash))
      have hl : ((b :: r).dropWhile (· ≠ slash)).length ≤ r.length := by
        simpa [hb] using (List.dropWhile_suffix (· ≠ slash) (l := r)).length_le
      simp only [Option.some.injEq] at h
      rw [← h, List.length_reverse]
      simp only [List.length_cons] at hp
      omega

/-- A path and the paths above it, from the nearest on. -/
def ancestors (p : Path) : List Path :=
  p :: match _h : parent? p with
    | some q => ancestors q
    | none => []
termination_by p.length
decreasing_by exact length_parent _h

/-- The last component, if it is a name. -/
def name? (p : Path) : Option Bytes :=
  let name := ((trimReversed p.reverse).takeWhile (· ≠ slash)).reverse
  if name = [] ∨ name = [dot] ∨ name = [dot, dot] then none else some name

/-- What follows the last dot of a name, unless that dot comes first. -/
def nameExtension? (name : Bytes) : Option Bytes :=
  let r := name.reverse
  let stem := r.dropWhile (· ≠ dot)
  if stem.length ≤ 1 then none else some (r.takeWhile (· ≠ dot)).reverse

/-- The extension of the last component. -/
def extension? (p : Path) : Option Bytes := p.name?.bind nameExtension?

/-- A path below another one; an absolute path is below none. -/
def join (p q : Path) : Path :=
  if isAbsolute q || p.isEmpty then q
  else if p.getLast? = some slash then p ++ q
  else p ++ slash :: q

/-- The components of a path as they stand between its slashes, empty ones included. -/
def components : Path → List Bytes
  | [] => [[]]
  | b :: s =>
    if b = slash then [] :: components s
    else match components s with
      | c :: cs => (b :: c) :: cs
      | [] => [[b]]

/-- The absolute path of a list of names. -/
def ofNames (names : List Bytes) : Path :=
  if names.isEmpty then [slash] else names.flatMap (slash :: ·)

end Path

end KeywordFinder
