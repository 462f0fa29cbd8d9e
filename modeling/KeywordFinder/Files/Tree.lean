import KeywordFinder.Fault
import KeywordFinder.Files.Path

/-!
# File trees

A tree of directories, files and symbolic links.  Paths are resolved component by component, links
included, and a resolved path is the list of names from the root; nothing on it is a link.
-/

namespace KeywordFinder

/-- The entries of a directory in their order. -/
inductive Listing where
  | empty
  | file (name : Bytes) (content : Bytes) (rest : Listing)
  | link (name : Bytes) (target : Path) (rest : Listing)
  | dir (name : Bytes) (children : Listing) (rest : Listing)
deriving DecidableEq, Repr

/-- What a name stands for. -/
inductive Entry where
  | file (content : Bytes)
  | link (target : Path)
  | dir (children : Listing)
deriving DecidableEq, Repr

namespace Listing

/-- The entry of a name. -/
def get? (name : Bytes) : Listing → Option Entry
  | empty => none
  | file n content rest => if n = name then some (.file content) else rest.get? name
  | link n target rest => if n = name then some (.link target) else rest.get? name
  | dir n children rest => if n = name then some (.dir children) else rest.get? name

/-- A listing with one entry in front. -/
def cons (name : Bytes) (e : Entry) (rest : Listing) : Listing :=
  match e with
  | .file content => file name content rest
  | .link target => link name target rest
  | .dir children => dir name children rest

/-- Gives a name the entry, in its old place or at the end. -/
def put (name : Bytes) (e : Entry) : Listing → Listing
  | empty => cons name e empty
  | file n content rest => if n = name then cons n e rest else file n content (rest.put name e)
  | link n target rest => if n = name then cons n e rest else link n target (rest.put name e)
  | dir n children rest => if n = name then cons n e rest else dir n children (rest.put name e)

/-- The entry at a list of names, none of which is a link on the way. -/
def entryAt? : (names : List Bytes) → Listing → Option Entry
  | [], l => some (.dir l)
  | n :: ns, l =>
    match l.get? n with
    | some (.dir children) => entryAt? ns children
    | some e => if ns.isEmpty then some e else none
    | none => none

/-- The directory at a list of names, or an empty one. -/
def childrenOf (e : Option Entry) : Listing :=
  match e with
  | some (.dir children) => children
  | _ => empty

/-- Adds an entry at a list of names with the directories above it.  A directory that is there keeps
its entries. -/
def add : (names : List Bytes) → Entry → Listing → Listing
  | [], _, l => l
  | [n], e, l =>
    match e, l.get? n with
    | .dir _, some (.dir _) => l
    | _, _ => l.put n e
  | n :: ns, e, l => l.put n (.dir (add ns e (childrenOf (l.get? n))))

end Listing

/-- A tree with the directory in which relative paths start. -/
structure FileSystem where
  root : Listing
  /-- The names of the working directory, from the root. -/
  current : List Bytes

namespace FileSystem

/-- The number of links that one path may lead through. -/
def maxLinks : Nat := 40

/-- The number of bytes that one name may have. -/
def maxNameLength : Nat := 255

/-- Follows components from the directory `here`, through at most `links` links. -/
def follow (fs : FileSystem) (links : Nat) (here : List Bytes) :
    (components : List Bytes) → Except SystemFault (List Bytes)
  | [] => .ok here
  | c :: rest =>
    if c = [] ∨ c = [dot] then fs.follow links here rest
    else if c = [dot, dot] then fs.follow links here.dropLast rest
    else if maxNameLength < c.length then .error .nameTooLong
    else match fs.root.entryAt? (here ++ [c]) with
    | none => .error .notFound
    | some (.dir _) => fs.follow links (here ++ [c]) rest
    | some (.file _) => if rest.isEmpty then .ok (here ++ [c]) else .error .notDirectory
    | some (.link target) =>
      match links with
      | 0 => .error .linkLoop
      | links + 1 =>
        fs.follow links (if Path.isAbsolute target then [] else here)
          (Path.components target ++ rest)
termination_by components => (links, components.length)

/-- The names of what a path leads to. -/
def resolve (fs : FileSystem) (p : Path) : Except SystemFault (List Bytes) :=
  if p.isEmpty then .error .notFound
  else fs.follow maxLinks (if Path.isAbsolute p then [] else fs.current) (Path.components p)

/-- What a path leads to. -/
def entry? (fs : FileSystem) (p : Path) : Option Entry :=
  (fs.resolve p).toOption.bind fun names => fs.root.entryAt? names

/-- Whether a path leads to something. -/
def pathExists (fs : FileSystem) (p : Path) : Bool := (fs.resolve p).toBool

/-- Whether a path leads to a file. -/
def isFile (fs : FileSystem) (p : Path) : Bool :=
  match fs.entry? p with
  | some (.file _) => true
  | _ => false

/-- The content of the file that a path leads to. -/
def read (fs : FileSystem) (p : Path) : Except SystemFault Bytes := do
  let names ← fs.resolve p
  match fs.root.entryAt? names with
  | some (.file content) => return content
  | _ => throw .isDirectory

/-- The absolute path, free of links, of what a path leads to. -/
def canonical? (fs : FileSystem) (p : Path) : Option Path :=
  (fs.resolve p).toOption.map Path.ofNames

end FileSystem

end KeywordFinder
