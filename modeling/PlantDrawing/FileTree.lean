import PlantDrawing.Quoted

/-!
# File trees

The files, folders and symbolic links that a command can see, under the names that
lead to them from the root. A path given as text is followed name by name: a blank
name and a dot stay in the same folder, two dots go back to the folder around it, a
link goes where its own path leads, and every other name on the way must be that of a
folder.

Writing a file first makes the folders that are missing on the way to it. For
this the path is taken apart as text: two dots cancel the name before them,
whatever that name is. So the way that is made is another than the one that is
followed where two dots stand behind a link.

Who may read and write is left out, and so are files that are no plain ones and a
system that runs out of room.
-/

namespace PlantDrawing

/-- A place in a file tree: names from the root on. -/
abbrev Place := List String

/-- What a place holds. A link holds the path that is followed in its stead. -/
inductive Entry where
  | folder
  | file (contents : ByteArray)
  | link (target : String)

instance : DecidableEq Entry
  | .folder, .folder => .isTrue rfl
  | .file first, .file second =>
    -- More than one comparison of bytes may be at hand: this is the one meant.
    match ByteArray.instDecidableEq first second with
    | .isTrue same => .isTrue (congrArg Entry.file same)
    | .isFalse other => .isFalse fun same => other (Entry.file.inj same)
  | .link first, .link second =>
    if same : first = second then .isTrue (congrArg Entry.link same)
    else .isFalse fun alike => same (Entry.link.inj alike)
  | .folder, .file _ => .isFalse nofun
  | .folder, .link _ => .isFalse nofun
  | .file _, .folder => .isFalse nofun
  | .file _, .link _ => .isFalse nofun
  | .link _, .folder => .isFalse nofun
  | .link _, .file _ => .isFalse nofun

/-- What there is, by place, the latest first. The root is always a folder. -/
structure FileTree where
  entries : List (Place × Entry)
  deriving DecidableEq

/-- Why a file or folder cannot be used. -/
inductive FileProblem where
  | missing
  | occupied
  | notFolder
  | isFolder
  | nameTooLong
  | tooManyLinks
  | forbidden
  /-- Anything else that a system reports, by its number and in its words. -/
  | other (number : Nat) (phrase : String)
  /-- A name holds the character that ends a path. -/
  | nullCharacter
  /-- Too many folders are missing one in another. -/
  | tooDeep
  deriving DecidableEq, Repr

/-- A problem with a path, as the path was given. -/
structure FileFault where
  problem : FileProblem
  path : String
  deriving DecidableEq, Repr

namespace FileProblem

/-- The number of each problem among the errors of the system; zero if it is none
    of them. -/
def number : FileProblem → Nat
  | missing => 2
  | forbidden => 13
  | occupied => 17
  | notFolder => 20
  | isFolder => 21
  | nameTooLong => 36
  | tooManyLinks => 40
  | other number _ => number
  | nullCharacter => 0
  | tooDeep => 0

/-- The problem with a number; the words are those of the system. -/
def ofNumber (phrase : String) : Nat → FileProblem
  | 2 => missing
  | 13 => forbidden
  | 17 => occupied
  | 20 => notFolder
  | 21 => isFolder
  | 36 => nameTooLong
  | 40 => tooManyLinks
  | number => other number phrase

/-- No problem is reported with the number of another one. -/
theorem number_ofNumber (phrase : String) (n : Nat) : (ofNumber phrase n).number = n := by
  unfold ofNumber
  split <;> rfl

/-- The wording of each problem. -/
def phrase : FileProblem → String
  | missing => "No such file or directory"
  | forbidden => "Permission denied"
  | occupied => "File exists"
  | notFolder => "Not a directory"
  | isFolder => "Is a directory"
  | nameTooLong => "File name too long"
  | tooManyLinks => "Too many levels of symbolic links"
  | other _ phrase => phrase
  | nullCharacter => "embedded null byte"
  | tooDeep => "too many levels of folders"

end FileProblem

/-- The wording of a problem with its path. -/
def FileFault.message (fault : FileFault) : String :=
  "[Errno " ++ toString fault.problem.number ++ "] " ++ fault.problem.phrase ++ ": " ++
    quoted fault.path

/-- A place as a path from the root. -/
def Place.path (place : Place) : String :=
  place.foldl (fun path name => path ++ "/" ++ name) ""

namespace FileTree

/-- What a place holds. -/
def find? (tree : FileTree) (place : Place) : Option Entry :=
  if place = [] then some .folder else tree.entries.lookup place

/-- Sets what a place holds. -/
def put (tree : FileTree) (place : Place) (entry : Entry) : FileTree :=
  ⟨(place, entry) :: tree.entries⟩

/-- A place that was set holds what it was set to. -/
theorem find?_put_self (tree : FileTree) {place : Place} (entry : Entry) (inside : place ≠ []) :
    (tree.put place entry).find? place = some entry := by
  simp [find?, put, inside]

/-- Setting one place leaves the others as they were. -/
theorem find?_put_of_ne (tree : FileTree) {place other : Place} (entry : Entry)
    (different : other ≠ place) : (tree.put place entry).find? other = tree.find? other := by
  have differs : (other == place) = false := by simpa using different
  simp [find?, put, List.lookup_cons, differs]

/-! ## Paths -/

/-- A text cut at every slash. -/
def cutAtSlashes : List Char → List (List Char)
  | [] => [[]]
  | c :: rest =>
    match c == '/', cutAtSlashes rest with
    | true, names => [] :: names
    | false, [] => [[c]]
    | false, name :: names => (c :: name) :: names

/-- The names of a path, between its slashes. -/
def names (path : String) : List String :=
  (cutAtSlashes path.toList).map String.ofList

/-- Whether a name stays in the folder it is read in. -/
def stays (name : String) : Bool :=
  name = "" || name = "."

/-- The folder in which a path begins. -/
def origin (current : Place) (path : String) : Place :=
  if path.toList.head? = some '/' then [] else current

/-- The place that a name leads to from another, whatever is there. -/
def enter (place : Place) (name : String) : Place :=
  if stays name then place else if name = ".." then place.dropLast else place ++ [name]

/-- The place that a path names when it is taken apart as text. -/
def nominalPlace (current : Place) (path : String) : Place :=
  (names path).foldl enter (origin current path)

/-- The longest name that a folder can hold, in bytes. -/
def longestName : Nat := 255

/-- The longest path that can be followed, in bytes. -/
def longestPath : Nat := 4095

/-- Refuses a path that cannot be followed as a text. -/
def checkPath (path : String) : Except FileProblem Unit :=
  if '\x00' ∈ path.toList then .error .nullCharacter
  else if path = "" then .error .missing
  else if longestPath < path.utf8ByteSize then .error .nameTooLong
  else .ok ()

/-- Refuses a name that no folder can hold. -/
def checkName (name : String) : Except FileProblem Unit :=
  if longestName < name.utf8ByteSize then .error .nameTooLong else .ok ()

/-- The most links that are followed along one path. -/
def mostLinks : Nat := 40

/-- Follows a way from a folder as long as it leads over folders: the folder that is
    reached, and what is left of the way from a name on that is none of a folder. -/
def stretch (tree : FileTree) (here : Place) : List String → Except FileProblem (Place × List String)
  | [] => .ok (here, [])
  | name :: rest =>
    if stays name then stretch tree here rest
    else if name = ".." then stretch tree here.dropLast rest
    else do
      checkName name
      match tree.find? (here ++ [name]) with
      | some .folder => stretch tree (here ++ [name]) rest
      | _ => .ok (here, name :: rest)

/-- Follows a way from a folder as long as it leads over folders and links, of which
    there may be so many. -/
def walk (tree : FileTree) (links : Nat) (here : Place) (way : List String) :
    Except FileProblem (Place × List String) := do
  let (folder, left) ← stretch tree here way
  match left with
  | [] => .ok (folder, [])
  | name :: rest =>
    match tree.find? (folder ++ [name]) with
    | some (.link target) =>
      match links with
      | 0 => .error .tooManyLinks
      | others + 1 => walk tree others (origin folder target) (names target ++ rest)
    | _ => .ok (folder, name :: rest)

/-- What stops a way at a place that is no folder. -/
def stop : Option Entry → FileProblem
  | none => .missing
  | some _ => .notFolder

/-- The folder that a way leads to over so many links at most. -/
def reach (tree : FileTree) (links : Nat) (here : Place) (way : List String) : Except FileProblem Place := do
  let (folder, left) ← tree.walk links here way
  match left with
  | [] => .ok folder
  | name :: _ => .error (stop (tree.find? (folder ++ [name])))

/-- The folder that a way leads to. -/
def follow (tree : FileTree) (here : Place) (way : List String) : Except FileProblem Place :=
  tree.reach mostLinks here way

/-- The contents of the file that a way leads to. -/
def contents (tree : FileTree) (here : Place) (way : List String) : Except FileProblem ByteArray := do
  let (folder, left) ← tree.walk mostLinks here way
  match left with
  | [] => .error .isFolder
  | name :: rest =>
    match tree.find? (folder ++ [name]), rest with
    | some (.file bytes), [] => .ok bytes
    | entry, _ => .error (stop entry)

/-- Reads the file at a path. -/
def read (tree : FileTree) (current : Place) (path : String) : Except FileFault ByteArray :=
  (do
    checkPath path
    tree.contents (origin current path) (names path)).mapError fun problem => ⟨problem, path⟩

/-! ## Writing -/

/-- What a path from the root has in front of its first slash when it is written
    out: a path that was given with exactly two slashes keeps both. -/
def mark (path : String) : String :=
  if (path.toList.takeWhile (· = '/')).length = 2 then "/" else ""

/-- Whether there is a folder or a file at the end of a way from the root, and the way
    can be written out as a path. -/
def leads (tree : FileTree) (mark : String) (way : Place) : Bool :=
  match checkPath (mark ++ way.path), tree.walk mostLinks [] way with
  | .ok (), .ok (_, []) => true
  | .ok (), .ok (folder, [name]) => (tree.find? (folder ++ [name])).isSome
  | _, _ => false

/-- Whether a way from the root leads to a folder. -/
def leadsToFolder (tree : FileTree) (mark : String) (way : Place) : Bool :=
  match checkPath (mark ++ way.path), tree.follow [] way with
  | .ok (), .ok _ => true
  | _, _ => false

/-- Makes a folder at the end of a way from the root, where there must be nothing. -/
def makeFolder (tree : FileTree) (mark : String) (way : Place) : Except FileProblem FileTree := do
  checkPath (mark ++ way.path)
  let folder ← tree.follow [] way.dropLast
  let place := folder ++ [way.getLastD ""]
  checkName (way.getLastD "")
  match tree.find? place with
  | none => .ok (tree.put place .folder)
  | some _ => .error .occupied

/-- Makes the folder at the end of a way from the root unless there is one, if nothing has
    gone wrong before. -/
def makeLast (mark : String) (way : Place) :
    Except FileFault Unit × FileTree → Except FileFault Unit × FileTree
  | (.error fault, tree) => (.error fault, tree)
  | (.ok (), tree) =>
    match tree.makeFolder mark way with
    | .ok grown => (.ok (), grown)
    | .error problem =>
      if tree.leadsToFolder mark way then (.ok (), tree)
      else (.error ⟨problem, mark ++ way.path⟩, tree)

/-- Passes over something that stands in the place of a folder. A link without an end does:
    it is found out again where the next folder is made. -/
def passOccupied : Except FileFault Unit × FileTree → Except FileFault Unit × FileTree
  | (.error ⟨.occupied, _⟩, tree) => (.ok (), tree)
  | made => made

/-- Makes the folders of a way from the root that are missing, one in another. The way
    comes with its last name first. Folders that were made before a fault stay. -/
def makeFolders (tree : FileTree) (mark : String) : List String → Except FileFault Unit × FileTree
  | [] => (.ok (), tree)
  | name :: outer =>
    makeLast mark (name :: outer).reverse
      (if tree.leads mark outer.reverse then (.ok (), tree)
       else passOccupied (makeFolders tree mark outer))

/-- How many names at the end of a way from the root lead to nothing. The way comes with
    its last name first. -/
def missingAlong (tree : FileTree) (mark : String) : List String → Nat
  | [] => 0
  | name :: outer =>
    if tree.leads mark (name :: outer).reverse then 0 else missingAlong tree mark outer + 1

/-- Makes the folders that are missing on the way to the file at a path, if they are no
    more than `folders`. -/
def makeWay (tree : FileTree) (folders : Nat) (current : Place) (path : String) :
    Except FileFault Unit × FileTree :=
  let way := (nominalPlace current path).dropLast.reverse
  if folders < tree.missingAlong (mark path) way then (.error ⟨.tooDeep, path⟩, tree)
  else tree.makeFolders (mark path) way

/-- A way without the blank names at its end. -/
def trimmed (way : List String) : List String :=
  (way.reverse.dropWhile (· = "")).reverse

/-- The place of the file that a way leads to over so many links at most, where a file can
    be written. Blank names at the end make a way that of a folder; so they do at the end of
    a link's own way if the way ends at the link. -/
def writableOver (tree : FileTree) (links : Nat) (here : Place) (way : List String) :
    Except FileProblem Place :=
  if way.getLast? = some "" then do
    let _ ← tree.reach links here (trimmed way).dropLast
    .error .isFolder
  else do
    let (folder, left) ← tree.stretch here way
    match left with
    | [] => .error .isFolder
    | name :: rest =>
      match tree.find? (folder ++ [name]) with
      | some (.link target) =>
        match links with
        | 0 => .error .tooManyLinks
        | others + 1 => writableOver tree others (origin folder target) (names target ++ rest)
      | entry => if rest = [] then .ok (folder ++ [name]) else .error (stop entry)

/-- The place of the file that a way leads to, where a file can be written. -/
def writable (tree : FileTree) (here : Place) (way : List String) : Except FileProblem Place :=
  tree.writableOver mostLinks here way

/-- The place of the file at a path, where a file can be written. -/
def writablePath (tree : FileTree) (current : Place) (path : String) : Except FileFault Place :=
  (do
    checkPath path
    tree.writable (origin current path) (names path)).mapError fun problem => ⟨problem, path⟩

/-- Writes a file at a path, in place of one that may be there, and makes the
    folders that are missing on the way. -/
def write (tree : FileTree) (folders : Nat) (current : Place) (path : String) (bytes : ByteArray) :
    Except FileFault Unit × FileTree :=
  let (made, tree) := tree.makeWay folders current path
  match made with
  | .error fault => (.error fault, tree)
  | .ok () =>
    match tree.writablePath current path with
    | .error fault => (.error fault, tree)
    | .ok place => (.ok (), tree.put place (.file bytes))

end FileTree

end PlantDrawing
