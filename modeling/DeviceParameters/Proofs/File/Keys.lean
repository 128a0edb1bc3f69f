import Mathlib.Data.List.Pairwise
import Mathlib.Data.List.TakeWhile
import DeviceParameters.Proofs.Bytes.Order
import DeviceParameters.Proofs.File.Capacity

/-!
# The keys of a volume

The keys that a file store reports are exactly the keys whose file stands in the root, each once:
reading a file name back finds the key that was put into it and no other, and directories, names
that are no text and names of no accepted key are left out. So a key is reported exactly where a
read finds its file, unless the path of the file is too long to be walked. A set that succeeds
adds its key or leaves the report as it is.

The report is in the order of the file names. The ending takes part in that order, so a key can
stand behind a longer key that it begins: `a!` before `a`, as `a!.par` stands before `a.par`. Only
for such pairs does the order of the keys differ.
-/

namespace DeviceParameters

namespace FileName

/-- A file name is read as a key exactly when it is the file name of that key. -/
theorem key?_eq_some_iff (name key : String) : key? name = some key ↔ ofKey key = .ok name := by
  rw [key?, ofKey_eq_ok]
  constructor
  · intro read
    split at read
    · cases read
    rename_i chars dropped
    dsimp only at read
    split at read
    · rename_i admitted
      obtain rfl := Option.some.inj read
      refine ⟨admitted, ?_⟩
      rw [String.toList_ofList, ← eq_append_of_dropEnding dropped, String.ofList_toList]
    · cases read
  · rintro ⟨admitted, rfl⟩
    rw [String.toList_ofList, dropEnding_append]
    simp [admitted]

/-- The key of a file name on the host, if it is a text and the file name of a key. -/
def keyOf (name : Name) : Option String := (Utf8.text? name).bind key?

/-- The key that is read from a name on the host is the one whose file name was put there. -/
theorem keyOf_eq_some_iff (name : Name) (key : String) :
    keyOf name = some key ↔ ∃ text, ofKey key = .ok text ∧ Utf8.bytes text = name := by
  have spelled (text : String) : Utf8.text? name = some text ↔ Utf8.bytes text = name := by
    rw [← eq_comm (a := name), ← Utf8.text_eq_ok_iff, Utf8.text?]
    cases Utf8.text name with
    | error fault => simp [Except.toOption]
    | ok value => simp [Except.toOption]
  simp only [keyOf, Option.bind_eq_some_iff, spelled, key?_eq_some_iff]
  exact exists_congr fun text => and_comm

/-- The entry of an accepted key is read as that key. -/
theorem keyOf_entryOf (key name : String) (named : ofKey key = .ok name) :
    keyOf (entryOf key) = some key :=
  (keyOf_eq_some_iff _ _).mpr ⟨name, named, bytes_of_ofKey key name named⟩

/-- Keys whose file names are in order are in order themselves, or the first is the second with
something behind it that comes before the ending. -/
theorem before_of_ending_before (left right ending : Bytes)
    (ordered : left ++ ending < right ++ ending) :
    left < right ∨ ∃ rest, rest ≠ [] ∧ left = right ++ rest ∧ rest ++ ending < ending := by
  have different : left ≠ right := by
    rintro rfl
    exact List.lt_irrefl _ ordered
  rcases Bytes.lt_or_lt_of_ne left right different with before | after
  · exact Or.inl before
  · rcases Bytes.begins_or_differs right left after with ⟨rest, something, rfl⟩ | apart
    · rw [List.append_assoc, Bytes.append_lt_append_iff] at ordered
      exact Or.inr ⟨rest, something, rfl, ordered⟩
    · exact absurd (apart ending ending) (List.lt_asymm ordered)

/-- A key is before one that continues it, and if the continuation comes before the ending, their
file names are the other way round. -/
theorem opposed_of_early (front rest ending : Bytes) (something : rest ≠ [])
    (early : rest ++ ending < ending) :
    front < front ++ rest ∧ (front ++ rest) ++ ending < front ++ ending := by
  constructor
  · obtain ⟨byte, others, rfl⟩ := List.exists_cons_of_ne_nil something
    simpa using List.append_left_lt (List.nil_lt_cons byte others)
  · rw [List.append_assoc]
    exact List.append_left_lt early

end FileName

namespace FileTree

/-- What is listed by its names is in the ascending order of these. -/
theorem listed_ascending_by {Item : Type} (nameOf : Item → Name) (items : List Item) :
    (items.mergeSort fun left right => listedBefore (nameOf left) (nameOf right)).Pairwise
      fun left right => nameOf left ≤ nameOf right := by
  have sorted : (items.mergeSort fun left right =>
      listedBefore (nameOf left) (nameOf right)).Pairwise fun left right =>
        listedBefore (nameOf left) (nameOf right) = true := by
    apply List.pairwise_mergeSort
    · intro first second third before after
      exact decide_eq_true (List.le_trans (of_decide_eq_true before) (of_decide_eq_true after))
    · intro first second
      simpa [listedBefore] using List.le_total (nameOf first) (nameOf second)
  exact sorted.imp of_decide_eq_true

/-- A listing of names is in ascending order. -/
theorem listed_ascending (names : List Name) :
    (names.mergeSort listedBefore).Pairwise (· ≤ ·) := listed_ascending_by id names

/-- A listing is the one arrangement of its names that ascends. -/
theorem listed_eq (names arranged : List Name) (same : names.Perm arranged)
    (ascending : arranged.Pairwise (· ≤ ·)) : names.mergeSort listedBefore = arranged := by
  apply List.Perm.eq_of_pairwise (fun _ _ _ _ => List.le_antisymm) (listed_ascending names) ascending
  exact (List.mergeSort_perm names _).trans same

/-- A listing does not depend on the order in which the names are met. -/
theorem listed_of_perm {names others : List Name} (same : names.Perm others) :
    names.mergeSort listedBefore = others.mergeSort listedBefore :=
  listed_eq names _ (same.trans (List.mergeSort_perm others _).symm) (listed_ascending others)

end FileTree

namespace FileStore

variable (tree : FileTree) (volume : Volume) (place : Place) (key value : String)

/-- The keys of the files directly in a directory, in the order of the file names. -/
def listedKeys : List String :=
  ((tree.fileNames place).mergeSort FileTree.listedBefore).filterMap FileName.keyOf

/-- A mounted store whose root is a directory reports its keys. -/
theorem keys_eq (root : volume.RootAt tree place) :
    keys tree ⟨some volume⟩ = .ok (listedKeys tree place) := by
  simp only [keys, Volume.list_eq tree volume place root, List.filterMap_filterMap]
  rfl

/-- The report, where the names of the files are known in order. -/
theorem keys_of_arranged (root : volume.RootAt tree place) (arranged : List Name)
    (listed : List String) (same : (tree.fileNames place).Perm arranged)
    (ascending : arranged.Pairwise (· ≤ ·)) (read : arranged.filterMap FileName.keyOf = listed) :
    keys tree ⟨some volume⟩ = .ok listed := by
  rw [keys_eq tree volume place root, listedKeys, FileTree.listed_eq _ arranged same ascending, read]

/-- A key is reported exactly if it is accepted and its file stands in the root. -/
theorem mem_listedKeys :
    key ∈ listedKeys tree place ↔
      ∃ name, FileName.ofKey key = .ok name ∧ tree.IsFile (place ++ [Utf8.bytes name]) := by
  simp only [listedKeys, List.mem_filterMap, (List.mergeSort_perm _ _).mem_iff,
    FileTree.mem_fileNames, FileName.keyOf_eq_some_iff]
  constructor
  · rintro ⟨_, file, name, named, rfl⟩
    exact ⟨name, named, file⟩
  · rintro ⟨name, named, file⟩
    exact ⟨_, file, name, named, rfl⟩

/-- An accepted key is reported exactly if its file stands in the root. -/
theorem mem_listedKeys_of_ofKey (name : String) (named : FileName.ofKey key = .ok name) :
    key ∈ listedKeys tree place ↔ tree.IsFile (place ++ [Utf8.bytes name]) := by
  rw [mem_listedKeys]
  constructor
  · rintro ⟨other, otherNamed, file⟩
    obtain rfl : other = name := Except.ok.inj (otherNamed.symm.trans named)
    exact file
  · exact fun file => ⟨name, named, file⟩

/-- The report ascends by file names. -/
theorem listedKeys_ascending :
    (listedKeys tree place).Pairwise fun left right =>
      Utf8.bytes left ++ FileName.endingBytes < Utf8.bytes right ++ FileName.endingBytes := by
  have distinct : ((tree.fileNames place).mergeSort FileTree.listedBefore).Nodup :=
    (List.mergeSort_perm _ _).nodup_iff.mpr (tree.fileNames_distinct place)
  apply ((FileTree.listed_ascending (tree.fileNames place)).and distinct).filterMap
  rintro left right ⟨before, different⟩ leftKey leftRead rightKey rightRead
  obtain ⟨leftName, leftNamed, rfl⟩ := (FileName.keyOf_eq_some_iff left leftKey).mp leftRead
  obtain ⟨rightName, rightNamed, rfl⟩ := (FileName.keyOf_eq_some_iff right rightKey).mp rightRead
  rw [← FileName.bytes_of_ofKey leftKey leftName leftNamed,
    ← FileName.bytes_of_ofKey rightKey rightName rightNamed]
  exact (List.le_iff_lt_or_eq.mp before).resolve_right different

/-- A key is reported once. -/
theorem listedKeys_distinct : (listedKeys tree place).Nodup := by
  apply (listedKeys_ascending tree place).imp
  rintro left right ordered rfl
  exact List.lt_irrefl _ ordered

/-- What is arranged by two orders at once is in both or the other way round in both. -/
theorem ordered_alike {Item : Type} {first second : Item → Item → Prop} {items : List Item}
    (byFirst : items.Pairwise first) (bySecond : items.Pairwise second) (left right : Item)
    (leftThere : left ∈ items) (rightThere : right ∈ items) (different : left ≠ right) :
    first left right ∧ second left right ∨ first right left ∧ second right left := by
  have ordered : items.Pairwise fun left right =>
      first left right ∧ second left right ∨ first right left ∧ second right left :=
    (byFirst.and bySecond).imp Or.inl
  have symmetric : Std.Symm fun left right =>
      first left right ∧ second left right ∨ first right left ∧ second right left :=
    ⟨fun _ _ => Or.symm⟩
  exact ordered.forall leftThere rightThere different

/-- The keys are in their own order, too, exactly when no reported key has another one behind it
in the report that continues it with bytes before the ending.

Proof: a pair in the order of the file names alone is such a pair, and the other way round such a
pair, wherever its keys stand, is out of one of the two orders. -/
theorem listedKeys_ascending_iff :
    ((listedKeys tree place).Pairwise fun left right => Utf8.bytes left < Utf8.bytes right) ↔
      ∀ shorter ∈ listedKeys tree place, ∀ longer ∈ listedKeys tree place, ∀ rest, rest ≠ [] →
        Utf8.bytes longer = Utf8.bytes shorter ++ rest →
          FileName.endingBytes < rest ++ FileName.endingBytes := by
  constructor
  · intro ascending shorter shorterListed longer longerListed rest something continued
    by_contra early
    have different : FileName.endingBytes ≠ rest ++ FileName.endingBytes := by
      intro same
      exact something (List.self_eq_append_left.mp same)
    have before : rest ++ FileName.endingBytes < FileName.endingBytes :=
      (Bytes.lt_or_lt_of_ne _ _ different).resolve_left early
    obtain ⟨shorterFirst, longerFirst⟩ :=
      FileName.opposed_of_early (Utf8.bytes shorter) rest FileName.endingBytes something before
    rw [← continued] at shorterFirst longerFirst
    have apart : shorter ≠ longer := by
      rintro rfl
      exact List.lt_irrefl _ shorterFirst
    -- One of the two stands first in the report, and then both orders say so.
    rcases ordered_alike (listedKeys_ascending tree place) ascending shorter longer shorterListed
      longerListed apart with ⟨byName, _⟩ | ⟨_, byKey⟩
    · exact List.lt_asymm byName longerFirst
    · exact List.lt_asymm byKey shorterFirst
  · intro late
    apply (listedKeys_ascending tree place).imp_of_mem
    intro left right leftListed rightListed ordered
    rcases FileName.before_of_ending_before _ _ _ ordered with
      before | ⟨rest, something, continued, early⟩
    · exact before
    · exact absurd (late right rightListed left leftListed rest something continued)
        (List.lt_asymm early)

/-- The keys of a mounted store ascend by their file names, that is with the ending behind each.
They ascend by themselves exactly where no reported key is continued by another one with bytes
that come before the ending. -/
theorem keys_ascend_by_file_name (mounted : tree.isDirectory volume.root = true) :
    ∃ listed, keys tree ⟨some volume⟩ = .ok listed ∧
      (listed.Pairwise fun left right =>
        Utf8.bytes left ++ FileName.endingBytes < Utf8.bytes right ++ FileName.endingBytes) ∧
      ((listed.Pairwise fun left right => Utf8.bytes left < Utf8.bytes right) ↔
        ∀ shorter ∈ listed, ∀ longer ∈ listed, ∀ rest, rest ≠ [] →
          Utf8.bytes longer = Utf8.bytes shorter ++ rest →
            FileName.endingBytes < rest ++ FileName.endingBytes) := by
  obtain ⟨place, root⟩ := (FileTree.isDirectory_iff _ _).mp mounted
  exact ⟨listedKeys tree place, keys_eq tree volume place root, listedKeys_ascending tree place,
    listedKeys_ascending_iff tree place⟩

/-- Three keys of which one is continued by a digit, which comes after the full stop of the
ending: they are reported in their own order. -/
theorem keys_ascend_by_file_name_beside_digit :
    let directory := Utf8.bytes "flash"
    let tree := (((FileTree.fresh directory).putFile [directory, Utf8.bytes "b.par"] []).putFile
      [directory, Utf8.bytes "a1.par"] []).putFile [directory, Utf8.bytes "a.par"] []
    let volume : Volume := ⟨.ofText "/flash", 4096⟩
    tree.isDirectory volume.root = true ∧ keys tree ⟨some volume⟩ = .ok ["a", "a1", "b"] ∧
      ["a", "a1", "b"].Pairwise fun left right => Utf8.bytes left < Utf8.bytes right := by
  intro directory tree volume
  have mounted : tree.isDirectory volume.root = true := by decide +kernel
  have reported : keys tree ⟨some volume⟩ = .ok ["a", "a1", "b"] :=
    keys_of_arranged tree volume [directory] (by decide +kernel)
      (["a.par", "a1.par", "b.par"].map Utf8.bytes) _ (by decide +kernel) (by decide +kernel)
      (by decide +kernel)
  obtain ⟨listed, known, _, ordered⟩ := keys_ascend_by_file_name tree volume mounted
  obtain rfl : ["a", "a1", "b"] = listed := Except.ok.inj (reported.symm.trans known)
  refine ⟨mounted, reported, ordered.mpr ?_⟩
  intro shorter shorterListed longer longerListed rest something continued
  have late : ∀ shorter ∈ ["a", "a1", "b"], ∀ longer ∈ ["a", "a1", "b"],
      let rest := (Utf8.bytes longer).drop (Utf8.bytes shorter).length
      rest ≠ [] → Utf8.bytes longer = Utf8.bytes shorter ++ rest →
        FileName.endingBytes < rest ++ FileName.endingBytes := by decide +kernel
  obtain rfl : (Utf8.bytes longer).drop (Utf8.bytes shorter).length = rest := by
    rw [continued, List.drop_left]
  exact late shorter shorterListed longer longerListed something continued

/-- A key that is continued by an exclamation mark, which comes before the full stop of the
ending, is reported behind the longer key. -/
theorem keys_not_ascending_beside_exclamation_mark :
    let directory := Utf8.bytes "flash"
    let tree := ((FileTree.fresh directory).putFile [directory, Utf8.bytes "a.par"] []).putFile
      [directory, Utf8.bytes "a!.par"] []
    let volume : Volume := ⟨.ofText "/flash", 4096⟩
    tree.isDirectory volume.root = true ∧ keys tree ⟨some volume⟩ = .ok ["a!", "a"] ∧
      ¬ ["a!", "a"].Pairwise fun left right => Utf8.bytes left < Utf8.bytes right := by
  intro directory tree volume
  have reported : keys tree ⟨some volume⟩ = .ok ["a!", "a"] :=
    keys_of_arranged tree volume [directory] (by decide +kernel)
      (["a!.par", "a.par"].map Utf8.bytes) _ (by decide +kernel) (by decide +kernel)
      (by decide +kernel)
  exact ⟨by decide +kernel, reported, by decide +kernel⟩

/-- A read has found the file of its key, whether or not the file holds a text. -/
def Found : Except ParameterError String → Prop
  | .ok _ => True
  | .error (.invalidValue _ _) => True
  | .error _ => False

/-- A read of an accepted key finds its file where one stands, unless its path is too long. -/
theorem found_get_iff (name : String) (root : volume.RootAt tree place)
    (named : FileName.ofKey key = .ok name) (short : ¬ volume.IsTooLong name) :
    Found (get tree ⟨some volume⟩ key).result ↔ tree.IsFile (place ++ [Utf8.bytes name]) := by
  have entry := FileName.isEntryName_of_ofKey key name named
  simp only [get, named, Volume.read_eq tree volume place name root entry, if_neg short]
  cases stands : tree.node? (place ++ [Utf8.bytes name]) with
  | none => simp [Found, FileTree.IsFile, stands]
  | some node =>
    cases node with
    | directory => simp [Found, FileTree.IsFile, stands]
    | file serial contents =>
      apply iff_of_true
      · dsimp only
        cases Utf8.text contents with
        | error fault => trivial
        | ok value => trivial
      · exact ⟨serial, contents, stands⟩

/-- Writing the file of a key adds the key to the report, or leaves the report as it was where
the file stood before. -/
theorem listedKeys_of_replaces (after : FileTree) (name : String) (contents : Bytes)
    (named : FileName.ofKey key = .ok name)
    (replaced : FileTree.Replaces tree after (place ++ [Utf8.bytes name]) contents) :
    if key ∈ listedKeys tree place then listedKeys after place = listedKeys tree place
    else (listedKeys after place).Perm (key :: listedKeys tree place) := by
  have reported := mem_listedKeys_of_ofKey tree place key name named
  split
  · rename_i there
    have names := replaced.fileNames_of_isFile (reported.mp there)
    rw [listedKeys, FileTree.listed_of_perm names, listedKeys]
  · rename_i missing
    have names := replaced.fileNames_of_not_isFile (fun file => missing (reported.mpr file))
    have shuffled := (List.mergeSort_perm (after.fileNames place) FileTree.listedBefore).trans
      (names.trans ((List.mergeSort_perm (tree.fileNames place) FileTree.listedBefore).symm.cons _))
    have read : FileName.keyOf (Utf8.bytes name) = some key :=
      (FileName.keyOf_eq_some_iff _ _).mpr ⟨name, named, rfl⟩
    have keyed := shuffled.filterMap FileName.keyOf
    rw [List.filterMap_cons_some read] at keyed
    exact keyed

/-- The keys of a mounted store are those of the files in its root, each once. A key is among
them exactly if reading it finds a file, apart from keys whose path is too long to be read. A set
that succeeds makes its key one of them and changes nothing else about them. -/
theorem keys_are_those_found (root : volume.RootAt tree place) :
    ∃ listed, keys tree ⟨some volume⟩ = .ok listed ∧ listed.Nodup ∧
      (∀ key, key ∈ listed ↔
        ∃ name, FileName.ofKey key = .ok name ∧ tree.IsFile (place ++ [Utf8.bytes name])) ∧
      (∀ key name, FileName.ofKey key = .ok name →
        let read := (get tree ⟨some volume⟩ key).result
        if volume.IsTooLong name then read = .error (.storage (.io .nameTooLong))
        else (key ∈ listed ↔ Found read)) ∧
      ∀ key value outcome,
        let reply := set tree ⟨some volume⟩ key value
        reply.result = .ok outcome →
          ∃ next, keys reply.state ⟨some volume⟩ = .ok next ∧
            if key ∈ listed then next = listed else next.Perm (key :: listed) := by
  refine ⟨listedKeys tree place, keys_eq tree volume place root, listedKeys_distinct tree place,
    mem_listedKeys tree place, ?_, ?_⟩
  · intro key name named read
    split
    · rename_i long
      exact result_get_of_tooLong tree volume place key name root named long
    · rename_i short
      rw [found_get_iff tree volume place key name root named short,
        mem_listedKeys_of_ofKey tree place key name named]
  · intro key value outcome reply granted
    have still := rootAt_of_set tree volume key value place root
    refine ⟨listedKeys reply.state place, keys_eq reply.state volume place still, ?_⟩
    obtain ⟨error, refused, _⟩ | ⟨name, named, _, written⟩ :=
      set_refused_or_written tree volume key value
    · rw [show reply.result = .error error from refused] at granted
      cases granted
    · obtain ⟨_, replaced⟩ := Volume.room_of_write tree volume place name reply.state _ root
        (FileName.isEntryName_of_ofKey key name named) written
      exact listedKeys_of_replaces tree place key reply.state name _ named replaced

/-- A root with a parameter file whose key ends like a file name and one that is no text, beside a
directory named like a parameter file, a file that is only the ending, a name that is no text,
one with a separator and one that is too long: the two keys are reported and found, and a set
adds a third. -/
theorem keys_are_those_found_beside_other_entries :
    let directory := Utf8.bytes "flash"
    let others : List Name := [Utf8.bytes ".par", [0xFF] ++ FileName.endingBytes,
      Utf8.bytes "b\\.par", Utf8.bytes "abcdefghijklmnopqrstuvwxyz0.par"]
    let tree := others.foldl (fun tree name => tree.putFile [directory, name] [])
      ((((FileTree.fresh directory).putFile [directory, Utf8.bytes "a.par.par"] []).putFile
        [directory, Utf8.bytes "c.par"] [0xFF]).putDirectory [directory, Utf8.bytes "adname.par"])
    let volume : Volume := ⟨.ofText "/flash", 4096⟩
    volume.RootAt tree [directory] ∧ keys tree ⟨some volume⟩ = .ok ["a.par", "c"] ∧
      Found (get tree ⟨some volume⟩ "a.par").result ∧ Found (get tree ⟨some volume⟩ "c").result ∧
      ¬ Found (get tree ⟨some volume⟩ "adname").result ∧
      ∃ next, keys (set tree ⟨some volume⟩ "ssid" "net").state ⟨some volume⟩ = .ok next ∧
        next.Perm ["ssid", "a.par", "c"] := by
  intro directory others tree volume
  have root : volume.RootAt tree [directory] := by decide +kernel
  have reported : keys tree ⟨some volume⟩ = .ok ["a.par", "c"] :=
    keys_of_arranged tree volume [directory] root
      ([".par", "a.par.par", "abcdefghijklmnopqrstuvwxyz0.par", "b\\.par", "c.par"].map Utf8.bytes ++
        [[0xFF] ++ FileName.endingBytes])
      _ (by decide +kernel) (by decide +kernel) (by decide +kernel)
  have granted : (set tree ⟨some volume⟩ "ssid" "net").result = .ok .stored := by decide +kernel
  have short : ¬ volume.IsTooLong "a.par.par" ∧ ¬ volume.IsTooLong "c.par" ∧
      ¬ volume.IsTooLong "adname.par" := by decide +kernel
  -- The tree is named before it is compared, so that nothing evaluates it again.
  clear_value tree volume
  obtain ⟨listed, known, _, _, found, added⟩ := keys_are_those_found tree volume [directory] root
  obtain rfl : ["a.par", "c"] = listed := Except.ok.inj (reported.symm.trans known)
  have suffixed := found "a.par" "a.par.par" (by decide +kernel)
  have unreadable := found "c" "c.par" (by decide +kernel)
  have directoryInPlace := found "adname" "adname.par" (by decide +kernel)
  rw [if_neg short.1] at suffixed
  rw [if_neg short.2.1] at unreadable
  rw [if_neg short.2.2] at directoryInPlace
  obtain ⟨next, after, gained⟩ := added "ssid" "net" .stored granted
  rw [if_neg (by decide)] at gained
  exact ⟨root, reported, suffixed.mp (by decide), unreadable.mp (by decide),
    fun read => absurd (directoryInPlace.mpr read) (by decide), next, after, gained⟩

/-- Under a root with four thousand separators behind its name a parameter file is reported, and
reading its key does not find it. -/
theorem reported_key_not_found_under_long_root :
    let directory := Utf8.bytes "flash"
    let tree := (FileTree.fresh directory).putFile [directory, Utf8.bytes "ssid.par"]
      (Utf8.bytes "net")
    let volume : Volume := ⟨⟨Utf8.bytes "/flash" ++ List.replicate 4084 Path.separator⟩, 140⟩
    volume.RootAt tree [directory] ∧ keys tree ⟨some volume⟩ = .ok ["ssid"] ∧
      (get tree ⟨some volume⟩ "ssid").result = .error (.storage (.io .nameTooLong)) := by
  intro directory tree volume
  have root : volume.RootAt tree [directory] := by decide +kernel
  have reported : keys tree ⟨some volume⟩ = .ok ["ssid"] :=
    keys_of_arranged tree volume [directory] root [Utf8.bytes "ssid.par"] _
      (by decide +kernel) (by decide +kernel) (by decide +kernel)
  exact ⟨root, reported, by decide +kernel⟩

end FileStore

end DeviceParameters
