import MarketIntelligence.Foundations.Loops
import MarketIntelligence.Foundations.Tables
import Mathlib.Data.List.Infix
import Std.Data.String.ToInt

namespace MarketIntelligence
namespace WorldData

open Foundations

/-!
# The local store of raw objects

An object is a file below the root, and its metadata is a text file beside it.  The store is
the tree of the files and directories below the root, without links.  Paths are taken
relative to the root.
-/

abbrev ObjectPath := List String

/-- Payloads are compared as arrays of bytes. -/
instance decidableBytes : DecidableEq ByteArray :=
  ByteArray.instDecidableEq

inductive Node where
  | file (bytes : ByteArray)
  | directory
  deriving DecidableEq

abbrev Tree := List (ObjectPath × Node)

inductive StoreError where
  | valueError (message : String)
  | fileExistsError (message : String)
  | fileNotFoundError
  | notADirectoryError
  | isADirectoryError
  | unicodeDecodeError
  deriving DecidableEq, Repr

structure RawObjectMetadata where
  key : String
  checksum : String
  byteCount : Int
  mediaType : String
  deriving DecidableEq, Repr

/-! ## Paths -/

/-- One component of a path that is resolved. -/
def resolvePart (path : List String) (part : String) : List String :=
  if part = "" ∨ part = "." then path
  else if part = ".." then path.dropLast
  else path ++ [part]

/-- `_path`, for a root that is resolved. -/
def pathOf (root : List String) (key : String) : Except StoreError ObjectPath :=
  let start := if key.toList.head? = some '/' then [] else root
  let parts := (key.toList.splitOn '/').map String.ofList
  let candidate := parts.foldl resolvePart start
  if '\x00' ∈ key.toList then .error (.valueError "embedded null byte")
  else if root.isPrefixOf candidate = true ∧ root.length < candidate.length then
    .ok (candidate.drop root.length)
  else .error (.valueError "raw-object key escapes configured root")

/-- `Path.suffix`: from the last dot on, unless the name begins or ends with it. -/
def suffixOf (name : List Char) : List Char :=
  let ending := name.reverse.takeWhile (· ≠ '.')
  let position := name.length - ending.length - 1
  if '.' ∈ name ∧ ending ≠ [] ∧ 0 < position then name.drop position else []

/-- `path.with_suffix(path.suffix + ".meta")`, for the last component. -/
def metadataName (name : String) : String :=
  let suffix := suffixOf name.toList
  String.ofList (name.toList.take (name.toList.length - suffix.length) ++
    (suffix ++ ".meta".toList))

def metadataPath : ObjectPath -> ObjectPath
  | [] => []
  | [name] => [metadataName name]
  | head :: rest => head :: metadataPath rest

/-! ## Text files -/

/-- The translation of line ends when a text file is read. -/
def universalNewlines : List Char -> List Char
  | '\r' :: '\n' :: rest => '\n' :: universalNewlines rest
  | '\r' :: rest => '\n' :: universalNewlines rest
  | char :: rest => char :: universalNewlines rest
  | [] => []

/-- The line boundaries of `str.splitlines`. -/
def lineBoundaries : List Char :=
  ['\n', '\r', '\x0b', '\x0c', '\x1c', '\x1d', '\x1e', '\x85', '\u2028', '\u2029']

/-- `str.splitlines` -/
def splitlines : List Char -> List (List Char)
  | '\r' :: '\n' :: rest => [] :: splitlines rest
  | char :: rest =>
      if char ∈ lineBoundaries then [] :: splitlines rest
      else
        match splitlines rest with
        | [] => [[char]]
        | line :: lines => (char :: line) :: lines
  | [] => []

def metadataText (checksum : String) (byteCount : Nat) (mediaType : String) : String :=
  checksum ++ "\n" ++ toString byteCount ++ "\n" ++ mediaType ++ "\n"

/-- What `metadata` makes of the text of the file. -/
def parseMetadata (key : String) (text : String) : Except StoreError RawObjectMetadata :=
  match splitlines (universalNewlines text.toList) with
  | [checksum, byteCount, mediaType] =>
      match (String.ofList byteCount).toInt? with
      | none => .error (.valueError "invalid literal for int() with base 10")
      | some count => .ok ⟨key, String.ofList checksum, count, String.ofList mediaType⟩
  | _ => .error (.valueError "wrong number of values to unpack")

/-! ## The operations -/

def nodeAt (path : ObjectPath) (tree : Tree) : Option Node :=
  (Tables.lookup Prod.fst path tree).map Prod.snd

def Node.isFile : Node -> Bool
  | .file _ => true
  | .directory => false

/-- The directories above a path, below the root. -/
def ancestors (path : ObjectPath) : List ObjectPath :=
  path.dropLast.inits.tail

/-- `mkdir` of one directory that may exist. -/
def makeDirectory (tree : Tree) (directory : ObjectPath) : Tree :=
  if (nodeAt directory tree).isNone then Tables.put Prod.fst (directory, Node.directory) tree
  else tree

abbrev StoreProgram (α : Type) := EStateM StoreError Tree α

/-- `path.parent.mkdir(parents=True, exist_ok=True)` -/
def makeDirectories (path : ObjectPath) : StoreProgram PUnit := do
  let tree ← get
  if (nodeAt path.dropLast tree).any Node.isFile then throw (.fileExistsError "File exists")
  else if (ancestors path).any fun directory => (nodeAt directory tree).any Node.isFile then
    throw .notADirectoryError
  else
    set ((ancestors path).foldl makeDirectory tree)

/-- A file is opened for writing, and written. -/
def writeFile (path : ObjectPath) (bytes : ByteArray) : StoreProgram PUnit := do
  let tree ← get
  match nodeAt path tree with
  | some .directory => throw .isADirectoryError
  | _ => set (Tables.put Prod.fst (path, Node.file bytes) tree)

/-- The object is found as it is, or put in place of its temporary file. -/
def storeObject (path : ObjectPath) (payload : ByteArray) : StoreProgram PUnit := do
  let tree ← get
  match nodeAt path tree with
  | some .directory => throw .isADirectoryError
  | some (.file bytes) =>
      if bytes ≠ payload then
        throw (.fileExistsError "immutable raw object already exists with different content")
      else pure ⟨⟩
  | none => do
      makeDirectories path
      modify (Tables.put Prod.fst (path, Node.file payload))

section Store

variable (root : List String) (digest : ByteArray -> String)

def put (key : String) (payload : ByteArray) (mediaType : String) :
    StoreProgram RawObjectMetadata := do
  match pathOf root key with
  | .error refused => throw refused
  | .ok path =>
      storeObject path payload
      writeFile (metadataPath path) (metadataText (digest payload) payload.size mediaType).toUTF8
      pure ⟨key, digest payload, payload.size, mediaType⟩

/-- `read_bytes` of the file of a path. -/
def readBytes (path : ObjectPath) (tree : Tree) : Except StoreError ByteArray :=
  match nodeAt path tree with
  | none => .error .fileNotFoundError
  | some .directory => .error .isADirectoryError
  | some (.file bytes) => .ok bytes

def metadata (key : String) (tree : Tree) : Except StoreError RawObjectMetadata := do
  let path ← pathOf root key
  let bytes ← readBytes (metadataPath path) tree
  match String.fromUTF8? bytes with
  | none => .error .unicodeDecodeError
  | some text => parseMetadata key text

def verifyChecksum (key : String) (tree : Tree) : Except StoreError Bool := do
  let path ← pathOf root key
  let bytes ← readBytes path tree
  let stored ← metadata root key tree
  pure (digest bytes = stored.checksum)

end Store

end WorldData
end MarketIntelligence
