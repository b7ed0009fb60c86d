import MarketIntelligence.WorldData.ObjectStore
import MarketIntelligence.Foundations.Runs

namespace MarketIntelligence
namespace WorldData

open Foundations
open Loops

/-!
# Stored objects and later puts

The store compares an object with what is at its key before it writes, but it writes the
metadata in any case.  The name of the metadata is itself the name of an object, and the
metadata is read back line by line.  So an object is immutable as long as no metadata is
written over it, and as long as its own metadata can be read.
-/

/-! ## Names of metadata -/

section Names

theorem suffixOf_isSuffix (name : List Char) : suffixOf name <:+ name := by
  simp only [suffixOf]
  split
  · exact List.drop_suffix _ _
  · exact List.nil_suffix

/-- The metadata of a name is the name with `.meta` behind it. -/
theorem metadataName_eq (name : String) : metadataName name = name ++ ".meta" := by
  rcases suffixOf_isSuffix name.toList with ⟨front, split⟩
  have taken : name.toList.take (name.toList.length - (suffixOf name.toList).length) = front := by
    have length := congrArg List.length split
    rw [List.length_append] at length
    rw [← length, Nat.add_sub_cancel]
    conv_lhs => rw [← split]
    exact List.take_left
  apply String.toList_inj.mp
  simp only [metadataName, taken, String.toList_ofList, String.toList_append]
  rw [← List.append_assoc, split]

theorem metadataPath_concat (front : ObjectPath) (name : String) :
    metadataPath (front ++ [name]) = front ++ [name ++ ".meta"] := by
  induction front with
  | nil => exact congrArg (fun written => [written]) (metadataName_eq name)
  | cons head tail ih =>
      cases tail with
      | nil => exact congrArg (head :: ·) ih
      | cons second rest => exact congrArg (head :: ·) ih

theorem append_meta_ne (name : String) : name ++ ".meta" ≠ name := by
  intro same
  have length := congrArg (fun text => text.toList.length) same
  simp at length

theorem append_meta_inj {left right : String} (same : left ++ ".meta" = right ++ ".meta") :
    left = right := by
  have lists := congrArg String.toList same
  rw [String.toList_append, String.toList_append] at lists
  exact String.toList_inj.mp (List.append_cancel_right lists)

theorem metadataPath_inj {left right : ObjectPath} (leftReal : left ≠ []) (rightReal : right ≠ [])
    (same : metadataPath left = metadataPath right) : left = right := by
  rcases List.eq_nil_or_concat' left with empty | ⟨leftFront, leftName, leftSplit⟩
  · exact absurd empty leftReal
  rcases List.eq_nil_or_concat' right with empty | ⟨rightFront, rightName, rightSplit⟩
  · exact absurd empty rightReal
  subst leftSplit
  subst rightSplit
  rw [metadataPath_concat, metadataPath_concat] at same
  rcases List.append_inj' same rfl with ⟨fronts, names⟩
  rw [fronts, append_meta_inj (List.cons.inj names).1]

theorem metadataPath_ne {path : ObjectPath} (real : path ≠ []) : metadataPath path ≠ path := by
  rcases List.eq_nil_or_concat' path with empty | ⟨front, name, split⟩
  · exact absurd empty real
  · subst split
    rw [metadataPath_concat]
    intro same
    exact append_meta_ne name (List.cons.inj (List.append_cancel_left same)).1

theorem length_metadataPath (path : ObjectPath) : (metadataPath path).length = path.length := by
  rcases List.eq_nil_or_concat' path with empty | ⟨front, name, split⟩
  · subst empty
    rfl
  · subst split
    rw [metadataPath_concat, List.length_append, List.length_append]
    rfl

theorem ancestor_shorter {path directory : ObjectPath} (above : directory ∈ ancestors path) :
    directory.length < path.length := by
  have listed : directory ∈ path.dropLast.inits := List.mem_of_mem_tail above
  rcases (List.mem_inits _ _).mp listed with ⟨rest, split⟩
  have real : path ≠ [] := by
    intro empty
    subst empty
    cases above
  have length := congrArg List.length split
  rw [List.length_append, List.length_dropLast] at length
  have positive := List.length_pos_iff.mpr real
  omega

theorem pathOf_real {root : List String} {key : String} {path : ObjectPath}
    (accepted : pathOf root key = .ok path) : path ≠ [] := by
  simp only [pathOf] at accepted
  generalize List.foldl resolvePart _ _ = candidate at accepted
  by_cases null : '\x00' ∈ key.toList
  · rw [if_pos null] at accepted
    cases accepted
  rw [if_neg null] at accepted
  by_cases below : root.isPrefixOf candidate = true ∧ root.length < candidate.length
  · rw [if_pos below] at accepted
    cases accepted
    intro empty
    have length := congrArg List.length empty
    rw [List.length_drop, List.length_nil] at length
    omega
  · rw [if_neg below] at accepted
    cases accepted

end Names

/-! ## Reading metadata back -/

section Texts

/-- The text has no line boundary, so as a line of the metadata file it is read back as it was
written. -/
def Plain (text : List Char) : Prop :=
  forall char, char ∈ text -> char ∉ lineBoundaries

theorem universalNewlines_line {line : List Char} (plain : Plain line) (rest : List Char) :
    universalNewlines (line ++ '\n' :: rest) = line ++ '\n' :: universalNewlines rest := by
  induction line with
  | nil => simp [universalNewlines]
  | cons char line ih =>
      have here := plain char List.mem_cons_self
      have different : char ≠ '\r' := by
        intro same
        rw [same] at here
        exact here (by decide)
      rw [List.cons_append, universalNewlines]
      · exact congrArg (char :: ·) (ih fun other member =>
          plain other (List.mem_cons_of_mem _ member))
      · intro _ same
        exact absurd same different
      · exact different

theorem splitlines_line {line : List Char} (plain : Plain line) (rest : List Char) :
    splitlines (line ++ '\n' :: rest) = line :: splitlines rest := by
  induction line with
  | nil =>
      rw [List.nil_append, splitlines]
      · rfl
      · simp
  | cons char line ih =>
      have here := plain char List.mem_cons_self
      have different : char ≠ '\r' := by
        intro same
        rw [same] at here
        exact here (by decide)
      have rest_ := ih fun other member =>
        plain other (List.mem_cons_of_mem _ member)
      rw [List.cons_append, splitlines, if_neg here, rest_]
      intro _ same
      exact absurd same different

theorem plain_toString (number : Nat) : Plain (toString number).toList := by
  intro char member bounding
  have written : char ∈ Nat.toDigits 10 number := by
    simpa using member
  have digit := Nat.isDigit_of_mem_toDigits (by omega) (by omega) written
  have boundaries : lineBoundaries.all (fun other => !other.isDigit) = true := by decide
  have apart := List.all_eq_true.mp boundaries char bounding
  rw [digit] at apart
  cases apart

/-- The media type is read back as one line. -/
def OneLine (mediaType : String) : Prop :=
  (splitlines (universalNewlines (mediaType.toList ++ ['\n']))).length = 1

instance (mediaType : String) : Decidable (OneLine mediaType) :=
  inferInstanceAs (Decidable (_ = 1))

theorem lines_metadataText {checksum : String} (plain : Plain checksum.toList) (byteCount : Nat)
    (mediaType : String) :
    splitlines (universalNewlines (metadataText checksum byteCount mediaType).toList) =
      checksum.toList :: (toString byteCount).toList ::
        splitlines (universalNewlines (mediaType.toList ++ ['\n'])) := by
  have text : (metadataText checksum byteCount mediaType).toList =
      checksum.toList ++ '\n' :: ((toString byteCount).toList ++ '\n' ::
        (mediaType.toList ++ ['\n'])) := by
    simp [metadataText]
  rw [text, universalNewlines_line plain, universalNewlines_line (plain_toString byteCount),
    splitlines_line plain, splitlines_line (plain_toString byteCount)]

/-- The metadata that is written can be read if and only if the media type is one line. -/
theorem parseMetadata_iff {checksum : String} (plain : Plain checksum.toList) (key : String)
    (byteCount : Nat) (mediaType : String) :
    (exists stored, parseMetadata key (metadataText checksum byteCount mediaType) = .ok stored ∧
      stored.checksum = checksum) <-> OneLine mediaType := by
  have lines := lines_metadataText plain byteCount mediaType
  have number : (String.ofList (toString byteCount).toList).toInt? = some (byteCount : Int) := by
    rw [String.ofList_toList]
    exact Nat.toInt?_repr byteCount
  rw [parseMetadata, lines, OneLine]
  cases splitlines (universalNewlines (mediaType.toList ++ ['\n'])) with
  | nil =>
      constructor
      · rintro ⟨stored, read, _⟩
        cases read
      · intro impossible
        cases impossible
  | cons line others =>
      cases others with
      | nil =>
          simp only [number]
          exact ⟨fun _ => rfl, fun _ => ⟨_, rfl, String.ofList_toList⟩⟩
      | cons second rest =>
          constructor
          · rintro ⟨stored, read, _⟩
            cases read
          · intro impossible
            cases impossible

theorem fromUTF8?_toUTF8 (text : String) : String.fromUTF8? text.toUTF8 = some text := by
  rw [String.fromUTF8?]
  exact dif_pos text.isValidUTF8

end Texts

/-! ## What a put does to the tree -/

section Trees

theorem nodeAt_put (path other : ObjectPath) (node : Node) (tree : Tree) :
    nodeAt other (Tables.put Prod.fst (path, node) tree) =
      if path = other then some node else nodeAt other tree := by
  rw [nodeAt, Tables.lookup_put]
  by_cases same : path = other
  · rw [if_pos same, if_pos same]
    rfl
  · rw [if_neg same, if_neg same]
    rfl

/-- The files are the same. -/
def SameFiles (after before : Tree) : Prop :=
  forall path bytes, nodeAt path after = some (.file bytes) <->
    nodeAt path before = some (.file bytes)

/-- A directory is only added where there was nothing. -/
theorem makeDirectory_sameFiles (tree : Tree) (directory : ObjectPath) :
    SameFiles (makeDirectory tree directory) tree := by
  intro path bytes
  rw [makeDirectory]
  by_cases absent : (nodeAt directory tree).isNone = true
  · rw [if_pos absent, nodeAt_put]
    by_cases same : directory = path
    · rw [if_pos same, ← same, Option.isNone_iff_eq_none.mp absent]
      constructor <;> intro impossible <;> cases impossible
    · rw [if_neg same]
  · rw [if_neg absent]

theorem nodeAt_makeDirectory {path directory : ObjectPath} (different : directory ≠ path)
    (tree : Tree) : nodeAt path (makeDirectory tree directory) = nodeAt path tree := by
  rw [makeDirectory]
  by_cases absent : (nodeAt directory tree).isNone = true
  · rw [if_pos absent, nodeAt_put, if_neg different]
  · rw [if_neg absent]

theorem makeDirectory_foldl (directories : List ObjectPath) (tree : Tree) :
    SameFiles (directories.foldl makeDirectory tree) tree ∧
      forall path, path ∉ directories ->
        nodeAt path (directories.foldl makeDirectory tree) = nodeAt path tree := by
  induction directories generalizing tree with
  | nil => exact ⟨fun _ _ => Iff.rfl, fun _ _ => rfl⟩
  | cons directory rest ih =>
      rw [List.foldl_cons]
      rcases ih (makeDirectory tree directory) with ⟨files, frame⟩
      constructor
      · intro path bytes
        exact (files path bytes).trans (makeDirectory_sameFiles tree directory path bytes)
      · intro path outside
        have different : directory ≠ path := fun same => outside (same ▸ List.mem_cons_self)
        rw [frame path fun member => outside (List.mem_cons_of_mem _ member),
          nodeAt_makeDirectory different]

/-- No file is in the place of a directory above the path. -/
def Clear (path : ObjectPath) (tree : Tree) : Prop :=
  (nodeAt path.dropLast tree).any Node.isFile = false ∧
    (ancestors path).any (fun directory => (nodeAt directory tree).any Node.isFile) = false

theorem makeDirectories_clear {path : ObjectPath} {tree : Tree} (clear : Clear path tree) :
    exists after, makeDirectories path tree = .ok ⟨⟩ after ∧ SameFiles after tree ∧
      forall other, other ∉ ancestors path -> nodeAt other after = nodeAt other tree := by
  rcases makeDirectory_foldl (ancestors path) tree with ⟨files, frame⟩
  refine ⟨_, ?_, files, frame⟩
  rw [makeDirectories, bind_get, clear.1, clear.2]
  rfl

theorem makeDirectories_blocked {path : ObjectPath} {tree : Tree} (blocked : ¬ Clear path tree) :
    exists failure, makeDirectories path tree = .error failure tree := by
  rw [makeDirectories, bind_get]
  by_cases parent : (nodeAt path.dropLast tree).any Node.isFile = true
  · rw [if_pos parent]
    exact ⟨_, rfl⟩
  · rw [if_neg parent]
    by_cases above :
        (ancestors path).any (fun directory => (nodeAt directory tree).any Node.isFile) = true
    · rw [if_pos above]
      exact ⟨_, rfl⟩
    · exact absurd ⟨Bool.eq_false_iff.mpr parent, Bool.eq_false_iff.mpr above⟩ blocked

/-- The object can be stored: it is there already, or nothing is and nothing is in the way. -/
def Reaches (path : ObjectPath) (payload : ByteArray) (tree : Tree) : Prop :=
  nodeAt path tree = some (.file payload) ∨ nodeAt path tree = none ∧ Clear path tree

/-- The object is stored, and nothing else is. -/
structure Placed (path : ObjectPath) (payload : ByteArray) (before after : Tree) : Prop where
  written : nodeAt path after = some (.file payload)
  others : forall other bytes, other ≠ path ->
    (nodeAt other after = some (.file bytes) <-> nodeAt other before = some (.file bytes))
  beside : nodeAt (metadataPath path) after = nodeAt (metadataPath path) before

theorem storeObject_reaches {path : ObjectPath} {payload : ByteArray} {tree : Tree}
    (real : path ≠ []) (reaches : Reaches path payload tree) :
    exists after, storeObject path payload tree = .ok ⟨⟩ after ∧
      Placed path payload tree after := by
  rw [storeObject, bind_get]
  rcases reaches with known | ⟨absent, clear⟩
  · refine ⟨tree, ?_, known, fun _ _ _ => Iff.rfl, rfl⟩
    rw [known]
    simp only [ne_eq, not_true_eq_false, if_false]
    rfl
  · rcases makeDirectories_clear clear with ⟨made, done, files, frame⟩
    refine ⟨Tables.put Prod.fst (path, Node.file payload) made, ?_, ?_, ?_, ?_⟩
    · rw [absent]
      simp only [bind_apply, done]
      rfl
    · rw [nodeAt_put, if_pos rfl]
    · intro other bytes different
      rw [nodeAt_put, if_neg (Ne.symm different)]
      exact files other bytes
    · rw [nodeAt_put, if_neg (metadataPath_ne real).symm]
      refine frame (metadataPath path) fun above => ?_
      have shorter := ancestor_shorter above
      rw [length_metadataPath] at shorter
      omega

theorem storeObject_fails {path : ObjectPath} {payload : ByteArray} {tree : Tree}
    (refused : ¬ Reaches path payload tree) :
    exists failure, storeObject path payload tree = .error failure tree := by
  rw [storeObject, bind_get]
  cases node : nodeAt path tree with
  | none =>
      rcases makeDirectories_blocked fun clear => refused (Or.inr ⟨node, clear⟩) with
        ⟨failure, raised⟩
      refine ⟨failure, ?_⟩
      simp only [bind_apply, raised]
  | some found =>
      cases found with
      | directory => exact ⟨_, rfl⟩
      | file bytes =>
          have different : bytes ≠ payload := by
            intro same
            exact refused (Or.inl (same ▸ node))
          simp only [ne_eq, different, not_false_eq_true, if_true]
          exact ⟨_, rfl⟩

theorem writeFile_directory {path : ObjectPath} {bytes : ByteArray} {tree : Tree}
    (directory : nodeAt path tree = some .directory) :
    writeFile path bytes tree = .error .isADirectoryError tree := by
  rw [writeFile, bind_get, directory]
  rfl

theorem writeFile_ok {path : ObjectPath} {bytes : ByteArray} {tree : Tree}
    (writable : nodeAt path tree ≠ some .directory) :
    writeFile path bytes tree = .ok ⟨⟩ (Tables.put Prod.fst (path, Node.file bytes) tree) := by
  rw [writeFile, bind_get]
  cases node : nodeAt path tree with
  | none => rfl
  | some found =>
      cases found with
      | directory => exact absurd node writable
      | file known => rfl

end Trees

/-! ## A put as a whole -/

section Puts

variable (root : List String) (digest : ByteArray -> String)

/-- The bytes of the metadata a put writes. -/
def metadataBytes (payload : ByteArray) (mediaType : String) : ByteArray :=
  (metadataText (digest payload) payload.size mediaType).toUTF8

theorem put_refused (key : String) {payload : ByteArray} (mediaType : String) {tree : Tree}
    (refused : forall path, pathOf root key = .ok path -> ¬ Reaches path payload tree) :
    exists failure, put root digest key payload mediaType tree = .error failure tree := by
  rw [put]
  cases accepted : pathOf root key with
  | error failure => exact ⟨failure, rfl⟩
  | ok path =>
      rcases storeObject_fails (refused path accepted) with ⟨failure, raised⟩
      refine ⟨failure, ?_⟩
      simp only [bind_apply, raised]

theorem put_directory {key : String} {payload : ByteArray} (mediaType : String) {tree : Tree}
    {path : ObjectPath} (accepted : pathOf root key = .ok path)
    (reaches : Reaches path payload tree)
    (directory : nodeAt (metadataPath path) tree = some .directory) :
    exists failure after, put root digest key payload mediaType tree = .error failure after ∧
      Placed path payload tree after := by
  rcases storeObject_reaches (pathOf_real accepted) reaches with ⟨after, stored, placed⟩
  refine ⟨.isADirectoryError, after, ?_, placed⟩
  rw [put, accepted]
  simp only [bind_apply, stored]
  rw [writeFile_directory (placed.beside.trans directory)]

theorem put_completes {key : String} {payload : ByteArray} (mediaType : String) {tree : Tree}
    {path : ObjectPath} (accepted : pathOf root key = .ok path)
    (reaches : Reaches path payload tree)
    (writable : nodeAt (metadataPath path) tree ≠ some .directory) :
    exists stored middle, Placed path payload tree middle ∧
      put root digest key payload mediaType tree = .ok stored
        (Tables.put Prod.fst
          (metadataPath path, Node.file (metadataBytes digest payload mediaType)) middle) := by
  rcases storeObject_reaches (pathOf_real accepted) reaches with ⟨middle, stored, placed⟩
  have free : nodeAt (metadataPath path) middle ≠ some .directory := by
    rw [placed.beside]
    exact writable
  refine ⟨⟨key, digest payload, payload.size, mediaType⟩, middle, placed, ?_⟩
  rw [put, accepted]
  simp only [bind_apply, stored, writeFile_ok free]
  rfl

end Puts

/-! ## Runs of puts -/

structure Put where
  key : String
  payload : ByteArray
  mediaType : String

/-- The tree, and the puts that have succeeded, each with the bytes it was given under its key.
-/
structure World where
  tree : Tree
  accepted : List (String × ByteArray)

section Runs

variable (root : List String) (digest : ByteArray -> String)

def World.afterPut (world : World) (request : Put) : World :=
  match put root digest request.key request.payload request.mediaType world.tree with
  | .ok _ tree => ⟨tree, (request.key, request.payload) :: world.accepted⟩
  | .error _ tree => ⟨tree, world.accepted⟩

/-- The bytes stored at a key. -/
def storedBytes (key : String) (tree : Tree) : Except StoreError ByteArray := do
  let path ← pathOf root key
  readBytes path tree

/-- Every payload that was accepted is still stored under its key, byte for byte, and the
checksum in its metadata verifies. -/
def Kept (world : World) : Prop :=
  forall entry, entry ∈ world.accepted ->
    storedBytes root entry.1 world.tree = .ok entry.2 ∧
      verifyChecksum root digest entry.1 world.tree = .ok true

/-- A put that raises changes no file, neither that of the object nor that of its metadata,
whatever has been written before the raise. -/
def Harmless (world : World) (request : Put) : Prop :=
  forall failure after,
    put root digest request.key request.payload request.mediaType world.tree =
      .error failure after -> SameFiles after world.tree

/-- If the object can be stored, then its metadata can be written beside it, is readable, and is
not written over an object. -/
def Separate (world : World) (request : Put) : Prop :=
  forall path, pathOf root request.key = .ok path ->
    Reaches path request.payload world.tree ->
      if nodeAt (metadataPath path) world.tree = some .directory then
        nodeAt path world.tree = some (.file request.payload)
      else OneLine request.mediaType ∧
        forall entry, entry ∈ world.accepted -> pathOf root entry.1 = .ok (metadataPath path) ->
          entry.2 = metadataBytes digest request.payload request.mediaType

section Entries

variable {root digest}

theorem readBytes_ok_iff {path : ObjectPath} {tree : Tree} {bytes : ByteArray} :
    readBytes path tree = .ok bytes <-> nodeAt path tree = some (.file bytes) := by
  rw [readBytes]
  cases nodeAt path tree with
  | none => simp
  | some node =>
      cases node with
      | directory => simp
      | file known => simp

/-- The payload is at its key, and metadata with its checksum is beside it. -/
structure Recorded (root : List String) (digest : ByteArray -> String) (tree : Tree) (key : String)
    (payload : ByteArray) (path : ObjectPath) (bytes : ByteArray) : Prop where
  accepted : pathOf root key = .ok path
  object : nodeAt path tree = some (.file payload)
  beside : nodeAt (metadataPath path) tree = some (.file bytes)
  readable : exists text stored, String.fromUTF8? bytes = some text ∧
    parseMetadata key text = .ok stored ∧ stored.checksum = digest payload

theorem recorded_iff {tree : Tree} {key : String} {payload : ByteArray} :
    (storedBytes root key tree = .ok payload ∧ verifyChecksum root digest key tree = .ok true) <->
      exists path bytes, Recorded root digest tree key payload path bytes := by
  constructor
  · rintro ⟨stored, verified⟩
    rcases except_bind_ok stored with ⟨path, accepted, object⟩
    rw [verifyChecksum, except_bind_eq accepted, except_bind_eq object] at verified
    rcases except_bind_ok verified with ⟨known, read, equal⟩
    rw [metadata, except_bind_eq accepted] at read
    rcases except_bind_ok read with ⟨bytes, beside, decoded⟩
    cases text : String.fromUTF8? bytes with
    | none =>
        rw [text] at decoded
        cases decoded
    | some text_ =>
        rw [text] at decoded
        refine ⟨path, bytes, accepted, readBytes_ok_iff.mp object, readBytes_ok_iff.mp beside,
          text_, known, text, decoded, ?_⟩
        have same := Except.ok.inj equal
        exact (of_decide_eq_true same).symm
  · rintro ⟨path, bytes, recorded⟩
    rcases recorded.readable with ⟨text, known, decoded, parsed, same⟩
    have object := readBytes_ok_iff.mpr recorded.object
    have beside := readBytes_ok_iff.mpr recorded.beside
    constructor
    · rw [storedBytes, except_bind_eq recorded.accepted]
      exact object
    · have read : metadata root key tree = .ok known := by
        rw [metadata, except_bind_eq recorded.accepted, except_bind_eq beside, decoded]
        exact parsed
      rw [verifyChecksum, except_bind_eq recorded.accepted, except_bind_eq object,
        except_bind_eq read]
      exact congrArg Except.ok (decide_eq_true same.symm)

theorem Kept.recorded {world : World} (kept : Kept root digest world) {entry : String × ByteArray}
    (member : entry ∈ world.accepted) :
    exists path bytes, Recorded root digest world.tree entry.1 entry.2 path bytes :=
  recorded_iff.mp (kept entry member)

/-- An entry lasts when its object and its metadata are the same files. -/
theorem Recorded.carry {before after : Tree} {key : String} {payload : ByteArray}
    {path : ObjectPath} {bytes : ByteArray}
    (recorded : Recorded root digest before key payload path bytes)
    (object : nodeAt path after = some (.file payload))
    (beside : nodeAt (metadataPath path) after = some (.file bytes)) :
    Recorded root digest after key payload path bytes :=
  ⟨recorded.accepted, object, beside, recorded.readable⟩

/-- Placing an object changes no file that is there. -/
theorem Placed.carries {path : ObjectPath} {payload : ByteArray} {before after : Tree}
    (placed : Placed path payload before after) (reaches : Reaches path payload before)
    {other : ObjectPath} {bytes : ByteArray} (known : nodeAt other before = some (.file bytes)) :
    nodeAt other after = some (.file bytes) := by
  by_cases same : other = path
  · subst same
    rcases reaches with here | ⟨absent, _⟩
    · rw [placed.written, ← here, known]
    · rw [absent] at known
      cases known
  · exact (placed.others other bytes same).mpr known

end Entries

section Steps

variable {root digest}

theorem World.afterPut_error {world : World} {request : Put} {failure : StoreError} {after : Tree}
    (raised : put root digest request.key request.payload request.mediaType world.tree =
      .error failure after) :
    world.afterPut root digest request = ⟨after, world.accepted⟩ := by
  rw [World.afterPut, raised]

theorem World.afterPut_ok {world : World} {request : Put} {stored : RawObjectMetadata}
    {after : Tree}
    (done : put root digest request.key request.payload request.mediaType world.tree =
      .ok stored after) :
    world.afterPut root digest request =
      ⟨after, (request.key, request.payload) :: world.accepted⟩ := by
  rw [World.afterPut, done]

theorem harmless_error {world : World} {request : Put} {failure : StoreError} {after : Tree}
    (raised : put root digest request.key request.payload request.mediaType world.tree =
      .error failure after) :
    Harmless root digest world request <-> SameFiles after world.tree := by
  constructor
  · intro harmless
    exact harmless failure after raised
  · intro same otherFailure otherAfter otherwise
    rw [raised] at otherwise
    cases otherwise
    exact same

theorem harmless_ok {world : World} {request : Put} {stored : RawObjectMetadata} {after : Tree}
    (done : put root digest request.key request.payload request.mediaType world.tree =
      .ok stored after) :
    Harmless root digest world request := by
  intro failure otherwise raised
  rw [done] at raised
  cases raised

theorem Kept.placed {world : World} (kept : Kept root digest world) {path : ObjectPath}
    {payload : ByteArray} {after : Tree} (placed : Placed path payload world.tree after)
    (reaches : Reaches path payload world.tree) : Kept root digest ⟨after, world.accepted⟩ := by
  intro entry member
  rcases kept.recorded member with ⟨found, bytes, recorded⟩
  exact recorded_iff.mpr ⟨found, bytes, recorded.carry (placed.carries reaches recorded.object)
    (placed.carries reaches recorded.beside)⟩

theorem Placed.sameFiles_iff {path : ObjectPath} {payload : ByteArray} {before after : Tree}
    (placed : Placed path payload before after) :
    SameFiles after before <-> nodeAt path before = some (.file payload) := by
  constructor
  · intro same
    exact (same path payload).mp placed.written
  · intro known other bytes
    by_cases same : other = path
    · rw [same, placed.written, known]
    · exact placed.others other bytes same

/-- The entry of a put that completes holds if and only if its metadata can be read. -/
theorem recorded_written (plain : forall payload, Plain (digest payload).toList) {key : String}
    {payload : ByteArray} {mediaType : String} {path : ObjectPath} {tree : Tree}
    (accepted : pathOf root key = .ok path) (object : nodeAt path tree = some (.file payload))
    (beside : nodeAt (metadataPath path) tree =
      some (.file (metadataBytes digest payload mediaType))) :
    (exists found bytes, Recorded root digest tree key payload found bytes) <->
      OneLine mediaType := by
  constructor
  · rintro ⟨found, bytes, recorded⟩
    have paths : path = found := Except.ok.inj (accepted.symm.trans recorded.accepted)
    subst paths
    have same : metadataBytes digest payload mediaType = bytes :=
      Node.file.inj (Option.some.inj (beside.symm.trans recorded.beside))
    subst same
    rcases recorded.readable with ⟨text, stored, decoded, parsed, checksum⟩
    rw [metadataBytes, fromUTF8?_toUTF8] at decoded
    cases decoded
    exact (parseMetadata_iff (plain payload) key payload.size mediaType).mp
      ⟨stored, parsed, checksum⟩
  · intro line
    rcases (parseMetadata_iff (plain payload) key payload.size mediaType).mpr line with
      ⟨stored, parsed, checksum⟩
    exact ⟨path, _, accepted, object, beside, _, stored, fromUTF8?_toUTF8 _, parsed, checksum⟩

/-- What a put that completes does to the entries: its own has to be readable, and no object
is to be changed by its metadata. -/
theorem kept_completes (plain : forall payload, Plain (digest payload).toList) {world : World}
    (kept : Kept root digest world) {key : String} {payload : ByteArray} {mediaType : String}
    {path : ObjectPath} {middle after : Tree} (accepted : pathOf root key = .ok path)
    (reaches : Reaches path payload world.tree) (placed : Placed path payload world.tree middle)
    (written : after = Tables.put Prod.fst
      (metadataPath path, Node.file (metadataBytes digest payload mediaType)) middle) :
    Kept root digest ⟨after, (key, payload) :: world.accepted⟩ <->
      OneLine mediaType ∧ forall entry, entry ∈ world.accepted ->
        pathOf root entry.1 = .ok (metadataPath path) ->
          entry.2 = metadataBytes digest payload mediaType := by
  have real := pathOf_real accepted
  have beside : nodeAt (metadataPath path) after =
      some (.file (metadataBytes digest payload mediaType)) := by
    rw [written, nodeAt_put, if_pos rfl]
  have frame : forall other, other ≠ metadataPath path ->
      nodeAt other after = nodeAt other middle := by
    intro other different
    rw [written, nodeAt_put, if_neg (Ne.symm different)]
  have object : nodeAt path after = some (.file payload) := by
    rw [frame path (metadataPath_ne real).symm]
    exact placed.written
  constructor
  · intro holds
    constructor
    · exact (recorded_written plain accepted object beside).mp
        (holds.recorded List.mem_cons_self)
    · intro entry member elsewhere
      rcases holds.recorded (List.mem_cons_of_mem _ member) with ⟨found, bytes, recorded⟩
      have paths : metadataPath path = found :=
        Except.ok.inj (elsewhere.symm.trans recorded.accepted)
      have files := beside.symm.trans (paths ▸ recorded.object)
      exact (Node.file.inj (Option.some.inj files)).symm
  · rintro ⟨line, apart⟩ entry member
    apply recorded_iff.mpr
    rcases List.mem_cons.mp member with new | old
    · subst new
      exact (recorded_written plain accepted object beside).mpr line
    rcases kept.recorded old with ⟨found, bytes, recorded⟩
    have stored : nodeAt found after = some (.file entry.2) := by
      by_cases replaced : found = metadataPath path
      · rw [replaced, beside, apart entry old (replaced ▸ recorded.accepted)]
      · rw [frame found replaced]
        exact placed.carries reaches recorded.object
    by_cases same : found = path
    · -- another accepted put of the same object, whose metadata is written again
      subst same
      have payloads : entry.2 = payload :=
        Node.file.inj (Option.some.inj (stored.symm.trans object))
      rw [payloads] at stored ⊢
      exact (recorded_written plain recorded.accepted stored beside).mpr line
    · have foundReal := pathOf_real recorded.accepted
      have different : metadataPath found ≠ metadataPath path := fun equal =>
        same (metadataPath_inj foundReal real equal)
      refine ⟨found, bytes, recorded.carry stored ?_⟩
      rw [frame _ different]
      exact placed.carries reaches recorded.beside

/-- A put keeps what was accepted and does no harm if and only if it is separate. -/
theorem put_decides (plain : forall payload, Plain (digest payload).toList) {world : World}
    (request : Put) (kept : Kept root digest world) :
    (Kept root digest (world.afterPut root digest request) ∧
      Harmless root digest world request) <-> Separate root digest world request := by
  by_cases reached : exists path, pathOf root request.key = .ok path ∧
      Reaches path request.payload world.tree
  · rcases reached with ⟨path, accepted, reaches⟩
    have separate : Separate root digest world request <->
        if nodeAt (metadataPath path) world.tree = some .directory then
          nodeAt path world.tree = some (.file request.payload)
        else OneLine request.mediaType ∧
          forall entry, entry ∈ world.accepted -> pathOf root entry.1 = .ok (metadataPath path) ->
            entry.2 = metadataBytes digest request.payload request.mediaType := by
      constructor
      · intro holds
        exact holds path accepted reaches
      · intro here other otherwise _
        cases accepted.symm.trans otherwise
        exact here
    rw [separate]
    by_cases directory : nodeAt (metadataPath path) world.tree = some .directory
    · rw [if_pos directory]
      rcases put_directory root digest request.mediaType accepted reaches directory with
        ⟨failure, after, raised, placed⟩
      rw [World.afterPut_error raised, harmless_error raised, placed.sameFiles_iff]
      exact and_iff_right (kept.placed placed reaches)
    · rw [if_neg directory]
      rcases put_completes root digest request.mediaType accepted reaches directory with
        ⟨stored, middle, placed, done⟩
      rw [World.afterPut_ok done, and_iff_left (harmless_ok done)]
      exact kept_completes plain kept accepted reaches placed rfl
  · have refused : forall path, pathOf root request.key = .ok path ->
        ¬ Reaches path request.payload world.tree :=
      fun path accepted reaches => reached ⟨path, accepted, reaches⟩
    rcases put_refused root digest request.key request.mediaType refused with ⟨failure, raised⟩
    rw [World.afterPut_error raised, harmless_error raised]
    exact iff_of_true ⟨kept, fun _ _ => Iff.rfl⟩ fun path accepted reaches =>
      absurd reaches (refused path accepted)

/-- What was put stays, its checksum verifies, and no put that raises changes a file, after every
put of a run, if and only if every put of the run is separate. -/
theorem puts_immutable_iff (plain : forall payload, Plain (digest payload).toList) (tree : Tree)
    (requests : List Put) :
    Runs.Along (World.afterPut root digest)
        (fun world request => Kept root digest (world.afterPut root digest request) ∧
          Harmless root digest world request) ⟨tree, []⟩ requests <->
      Runs.Along (World.afterPut root digest) (Separate root digest) ⟨tree, []⟩ requests := by
  have initial : Kept root digest ⟨tree, []⟩ := fun entry member => absurd member List.not_mem_nil
  constructor
  · intro along
    exact along.entails (motive := Kept root digest) (fun world request _ good => good.1)
      (fun world request kept good => (put_decides plain request kept).mp good) initial
  · intro along
    exact along.entails (motive := Kept root digest)
      (fun world request kept separate => ((put_decides plain request kept).mpr separate).1)
      (fun world request kept separate => (put_decides plain request kept).mpr separate) initial

/-- The checksums of the two payloads below, as SHA-256 gives them. -/
def sampleDigest (payload : ByteArray) : String :=
  if payload = "".toUTF8 then "e3b0c44298fc1c149afbf4c8996fb92427ae41e4649b934ca495991b7852b855"
  else "ca978112ca1bbdcafac231b39a23dc4da786eff8147c4e72b9807785afee48bb"

theorem plain_of_all {text : List Char}
    (plain : text.all (fun char => !lineBoundaries.contains char) = true) : Plain text := by
  intro char member bounding
  have apart := List.all_eq_true.mp plain char member
  rw [List.contains_iff_mem.mpr bounding] at apart
  cases apart

theorem sampleDigest_plain (payload : ByteArray) : Plain (sampleDigest payload).toList := by
  rw [sampleDigest]
  split
  · exact plain_of_all (by decide +kernel)
  · exact plain_of_all (by decide +kernel)

/-- An object is put again, under another media type. -/
theorem samplePuts_immutable :
    Runs.Along (World.afterPut ["objects"] sampleDigest)
      (fun world request =>
        Kept ["objects"] sampleDigest (world.afterPut ["objects"] sampleDigest request) ∧
          Harmless ["objects"] sampleDigest world request) ⟨[], []⟩
      [⟨"a", "".toUTF8, "text/plain"⟩, ⟨"a", "".toUTF8, "text/csv"⟩] := by
  apply (puts_immutable_iff sampleDigest_plain [] _).mpr
  refine ⟨?_, ?_, trivial⟩
  · intro path accepted reaches
    have here : pathOf ["objects"] "a" = .ok ["a"] := by decide +kernel
    cases here.symm.trans accepted
    rw [if_neg (by decide +kernel)]
    exact ⟨by decide +kernel, by decide +kernel⟩
  · intro path accepted reaches
    have here : pathOf ["objects"] "a" = .ok ["a"] := by decide +kernel
    cases here.symm.trans accepted
    rw [if_neg (by decide +kernel)]
    exact ⟨by decide +kernel, by decide +kernel⟩

/-- The metadata of `a` is written over the object `a.meta`. -/
theorem metadata_overwrites :
    ¬ Runs.Along (World.afterPut ["objects"] sampleDigest)
      (fun world request =>
        Kept ["objects"] sampleDigest (world.afterPut ["objects"] sampleDigest request) ∧
          Harmless ["objects"] sampleDigest world request) ⟨[], []⟩
      [⟨"a.meta", "a".toUTF8, "text/plain"⟩, ⟨"a", "".toUTF8, "text/plain"⟩] := by
  rintro ⟨_, ⟨kept, _⟩, _⟩
  have stored := (kept ("a.meta", "a".toUTF8) (List.mem_of_getElem? (i := 1) (by decide +kernel))).1
  revert stored
  decide +kernel

end Steps

end Runs

end WorldData
end MarketIntelligence
