import Mathlib.Data.List.Basic
import Mathlib.Data.List.Nodup

/-!
# A directory of files with modification times

A flat directory. A file has a name, contents of an arbitrary type, the time of its last write (or
of its creation), and a number of its own, its inode, by which an open stream refers to it. The
directory keeps its files in order of creation, no two with one name or one inode
(`FileStore` carries this as fields).

The operations are those of a POSIX directory as a stream library uses it. Opening for appending
returns the inode of the file under a name and creates the file when there is none, without touching
the time of a file that exists. Writing goes through an inode and stamps the file, and has no effect
on the directory once the file is unlinked. Deleting unlinks by name. `mapContent` changes the
representation of the contents, and every operation commutes with it.
-/

set_option autoImplicit false
set_option relaxedAutoImplicit false

namespace UvcRtmpStream.Foundations

/-- A file of a directory. -/
@[ext] structure StoredFile (ν κ : Type*) where
  inode : ℕ
  name : ν
  content : κ
  lastModified : ℕ
  deriving DecidableEq

/-- A directory: its files in order of creation, no two with the same inode or the same name, and
the inode the next new file gets. -/
@[ext] structure FileStore (ν κ : Type*) where
  files : List (StoredFile ν κ)
  nextInode : ℕ
  inode_lt : ∀ file ∈ files, file.inode < nextInode
  nodup_inode : (files.map StoredFile.inode).Nodup
  nodup_name : (files.map StoredFile.name).Nodup

namespace FileStore

variable {ν κ κ' : Type*}

/-- The directory without files. -/
def empty : FileStore ν κ where
  files := []
  nextInode := 0
  inode_lt := by simp
  nodup_inode := by simp
  nodup_name := by simp

/-- The file under a name. -/
def lookup [DecidableEq ν] (store : FileStore ν κ) (name : ν) : Option (StoredFile ν κ) :=
  store.files.find? fun file ↦ decide (file.name = name)

/-- A new file at the end of the directory, under a name that is not taken. -/
def create [DecidableEq ν] (store : FileStore ν κ) (name : ν) (content : κ) (now : ℕ)
    (hname : store.lookup name = none) : FileStore ν κ where
  files := store.files ++ [⟨store.nextInode, name, content, now⟩]
  nextInode := store.nextInode + 1
  inode_lt := by
    intro file hfile
    rcases List.mem_append.mp hfile with hfile | hfile
    · exact Nat.lt_succ_of_lt (store.inode_lt file hfile)
    · rw [List.mem_singleton.mp hfile]
      exact Nat.lt_succ_self _
  nodup_inode := by
    rw [List.map_append]
    refine store.nodup_inode.append (List.nodup_singleton _) fun inode hold hnew ↦ ?_
    obtain ⟨file, hfile, rfl⟩ := List.mem_map.mp hold
    have hlt := store.inode_lt file hfile
    simp only [List.map_cons, List.map_nil, List.mem_singleton] at hnew
    omega
  nodup_name := by
    rw [List.map_append]
    refine store.nodup_name.append (List.nodup_singleton _) fun taken hold hnew ↦ ?_
    obtain ⟨file, hfile, rfl⟩ := List.mem_map.mp hold
    have hfree := List.find?_eq_none.mp hname file hfile
    simp only [List.map_cons, List.map_nil, List.mem_singleton] at hnew
    simp [hnew] at hfree

/-- Opens the file under a name for appending: the directory, with the file created if there was
none, and the inode the stream writes to. -/
def openAppend [DecidableEq ν] (store : FileStore ν κ) (name : ν) (content : κ) (now : ℕ) :
    FileStore ν κ × ℕ :=
  match hname : store.lookup name with
  | some file => (store, file.inode)
  | none => (store.create name content now hname, store.nextInode)

/-- One file after a write through an inode. -/
def writeFile (inode : ℕ) (change : κ → κ) (now : ℕ) (file : StoredFile ν κ) : StoredFile ν κ :=
  if file.inode = inode then { file with content := change file.content, lastModified := now }
  else file

@[simp] theorem writeFile_inode (inode : ℕ) (change : κ → κ) (now : ℕ) (file : StoredFile ν κ) :
    (writeFile inode change now file).inode = file.inode := by
  unfold writeFile
  split <;> rfl

@[simp] theorem writeFile_name (inode : ℕ) (change : κ → κ) (now : ℕ) (file : StoredFile ν κ) :
    (writeFile inode change now file).name = file.name := by
  unfold writeFile
  split <;> rfl

/-- A write through an inode at a time: the contents change and the file is stamped. An unlinked
inode is no longer in the directory, and nothing in the directory changes. -/
def write (store : FileStore ν κ) (inode : ℕ) (change : κ → κ) (now : ℕ) : FileStore ν κ where
  files := store.files.map (writeFile inode change now)
  nextInode := store.nextInode
  inode_lt := by
    intro file hfile
    obtain ⟨old, hold, rfl⟩ := List.mem_map.mp hfile
    simpa using store.inode_lt old hold
  nodup_inode := by
    rw [List.map_map]
    simpa [Function.comp_def] using store.nodup_inode
  nodup_name := by
    rw [List.map_map]
    simpa [Function.comp_def] using store.nodup_name

/-- The directory with only the files that satisfy a test. -/
def keep (store : FileStore ν κ) (test : StoredFile ν κ → Bool) : FileStore ν κ where
  files := store.files.filter test
  nextInode := store.nextInode
  inode_lt := fun file hfile ↦ store.inode_lt file (List.mem_filter.mp hfile).1
  nodup_inode := store.nodup_inode.sublist (List.filter_sublist.map _)
  nodup_name := store.nodup_name.sublist (List.filter_sublist.map _)

/-- Unlinks the file under a name. -/
def delete [DecidableEq ν] (store : FileStore ν κ) (name : ν) : FileStore ν κ :=
  store.keep fun file ↦ decide (file.name ≠ name)

/-- The same directory with the contents represented differently. -/
def mapContent (represent : κ → κ') (store : FileStore ν κ) : FileStore ν κ' where
  files := store.files.map fun file ↦
    ⟨file.inode, file.name, represent file.content, file.lastModified⟩
  nextInode := store.nextInode
  inode_lt := by
    intro file hfile
    obtain ⟨old, hold, rfl⟩ := List.mem_map.mp hfile
    exact store.inode_lt old hold
  nodup_inode := by
    rw [List.map_map]
    exact store.nodup_inode
  nodup_name := by
    rw [List.map_map]
    exact store.nodup_name

/-! ### What each operation does to the files -/

@[simp] theorem files_write (store : FileStore ν κ) (inode : ℕ) (change : κ → κ) (now : ℕ) :
    (store.write inode change now).files = store.files.map (writeFile inode change now) := rfl

@[simp] theorem files_keep (store : FileStore ν κ) (test : StoredFile ν κ → Bool) :
    (store.keep test).files = store.files.filter test := rfl

/-- Tests that agree on the files keep the same files. -/
theorem keep_congr (store : FileStore ν κ) {test test' : StoredFile ν κ → Bool}
    (h : ∀ file ∈ store.files, test file = test' file) : store.keep test = store.keep test' :=
  FileStore.ext (List.filter_congr h) rfl

theorem eq_of_name_eq (store : FileStore ν κ) {first second : StoredFile ν κ}
    (hfirst : first ∈ store.files) (hsecond : second ∈ store.files)
    (h : first.name = second.name) : first = second :=
  List.inj_on_of_nodup_map store.nodup_name hfirst hsecond h

theorem eq_of_inode_eq (store : FileStore ν κ) {first second : StoredFile ν κ}
    (hfirst : first ∈ store.files) (hsecond : second ∈ store.files)
    (h : first.inode = second.inode) : first = second :=
  List.inj_on_of_nodup_map store.nodup_inode hfirst hsecond h

/-- A write through the inode of the last file changes only the last file. -/
theorem files_write_of_eq_concat (store : FileStore ν κ) {earlier : List (StoredFile ν κ)}
    {last : StoredFile ν κ} (hfiles : store.files = earlier ++ [last]) (change : κ → κ) (now : ℕ) :
    (store.write last.inode change now).files =
      earlier ++ [{ last with content := change last.content, lastModified := now }] := by
  have hnodup := store.nodup_inode
  rw [hfiles, List.map_append, List.map_singleton, List.nodup_append] at hnodup
  have hearlier : earlier.map (writeFile last.inode change now) = earlier := by
    refine (List.map_congr_left fun file hfile ↦ ?_).trans (List.map_id _)
    have hne := hnodup.2.2 file.inode (List.mem_map_of_mem hfile) last.inode
      (List.mem_singleton_self _)
    exact if_neg hne
  rw [files_write, hfiles, List.map_append, hearlier, List.map_singleton, writeFile, if_pos rfl]

/-- A write through the inode of no file of the directory leaves the directory as it is. -/
theorem write_eq_self_of_unlinked (store : FileStore ν κ) {inode : ℕ}
    (h : ∀ file ∈ store.files, file.inode ≠ inode) (change : κ → κ) (now : ℕ) :
    store.write inode change now = store := by
  refine FileStore.ext ?_ rfl
  rw [files_write]
  exact (List.map_congr_left fun file hfile ↦ if_neg (h file hfile)).trans (List.map_id _)

/-- What a write makes of a file of the directory. -/
theorem mem_files_write (store : FileStore ν κ) {file : StoredFile ν κ} (hfile : file ∈ store.files)
    (inode : ℕ) (change : κ → κ) (now : ℕ) :
    writeFile inode change now file ∈ (store.write inode change now).files :=
  List.mem_map_of_mem hfile

variable [DecidableEq ν]

theorem lookup_eq_some_iff (store : FileStore ν κ) {name : ν} {file : StoredFile ν κ} :
    store.lookup name = some file ↔ file ∈ store.files ∧ file.name = name := by
  constructor
  · intro h
    exact ⟨List.mem_of_find?_eq_some h, by simpa using List.find?_some h⟩
  · rintro ⟨hfile, rfl⟩
    cases hlookup : store.lookup file.name with
    | none => simpa using List.find?_eq_none.mp hlookup file hfile
    | some found =>
      have hname : found.name = file.name := by simpa using List.find?_some hlookup
      rw [store.eq_of_name_eq (List.mem_of_find?_eq_some hlookup) hfile hname]

theorem lookup_eq_none_iff (store : FileStore ν κ) {name : ν} :
    store.lookup name = none ↔ ∀ file ∈ store.files, file.name ≠ name := by
  simp [lookup]

/-- Opening a file that exists changes nothing. -/
theorem openAppend_of_some (store : FileStore ν κ) {name : ν} {content : κ} {now : ℕ}
    {file : StoredFile ν κ} (h : store.lookup name = some file) :
    store.openAppend name content now = (store, file.inode) := by
  unfold openAppend
  split
  · simp_all
  · simp_all

/-- Opening under a free name creates the file at the end of the directory. -/
theorem openAppend_of_none (store : FileStore ν κ) {name : ν} {content : κ} {now : ℕ}
    (h : store.lookup name = none) :
    store.openAppend name content now = (store.create name content now h, store.nextInode) := by
  unfold openAppend
  split
  · simp_all
  · rfl

theorem nextInode_le_openAppend (store : FileStore ν κ) (name : ν) (content : κ) (now : ℕ) :
    store.nextInode ≤ (store.openAppend name content now).1.nextInode := by
  cases h : store.lookup name with
  | some file =>
    have hsame : (store.openAppend name content now).1.nextInode = store.nextInode :=
      congrArg (fun opened ↦ opened.1.nextInode) (openAppend_of_some store h)
    exact Nat.le_of_eq hsame.symm
  | none =>
    rw [openAppend_of_none _ h]
    exact Nat.le_succ store.nextInode

/-- The inode that a file is opened under is one of the directory. -/
theorem snd_openAppend_lt (store : FileStore ν κ) (name : ν) (content : κ) (now : ℕ) :
    (store.openAppend name content now).2 < (store.openAppend name content now).1.nextInode := by
  cases h : store.lookup name with
  | some file =>
    rw [openAppend_of_some _ h]
    exact store.inode_lt file (store.lookup_eq_some_iff.mp h).1
  | none =>
    rw [openAppend_of_none _ h]
    exact Nat.lt_succ_self _

/-- The file that the opened inode belongs to has the name. -/
theorem name_of_snd_openAppend (store : FileStore ν κ) {name : ν} {content : κ} {now : ℕ}
    {file : StoredFile ν κ} (hfile : file ∈ (store.openAppend name content now).1.files)
    (hinode : file.inode = (store.openAppend name content now).2) : file.name = name := by
  cases h : store.lookup name with
  | some other =>
    rw [openAppend_of_some _ h] at hfile hinode
    obtain ⟨hother, hname⟩ := store.lookup_eq_some_iff.mp h
    rw [store.eq_of_inode_eq hfile hother hinode]
    exact hname
  | none =>
    rw [openAppend_of_none _ h] at hfile hinode
    rcases List.mem_append.mp hfile with hold | hnew
    · exact absurd hinode (Nat.ne_of_lt (store.inode_lt file hold))
    · rw [List.mem_singleton.mp hnew]

/-- A file of the directory after opening is an old one, or a new one that was made then. -/
theorem eq_of_mem_files_openAppend (store : FileStore ν κ) {name : ν} {content : κ} {now : ℕ}
    {file : StoredFile ν κ} (hfile : file ∈ (store.openAppend name content now).1.files) :
    file ∈ store.files ∨
      file = ⟨store.nextInode, name, content, now⟩ ∧ store.lookup name = none := by
  cases h : store.lookup name with
  | some other =>
    rw [openAppend_of_some _ h] at hfile
    exact Or.inl hfile
  | none =>
    rw [openAppend_of_none _ h] at hfile
    exact (List.mem_append.mp hfile).imp_right fun hnew ↦ ⟨List.mem_singleton.mp hnew, rfl⟩

/-- Opening removes no file. -/
theorem mem_files_openAppend (store : FileStore ν κ) {file : StoredFile ν κ}
    (hfile : file ∈ store.files) (name : ν) (content : κ) (now : ℕ) :
    file ∈ (store.openAppend name content now).1.files := by
  cases h : store.lookup name with
  | some other =>
    rw [openAppend_of_some _ h]
    exact hfile
  | none =>
    rw [openAppend_of_none _ h]
    exact List.mem_append_left _ hfile

/-- Deleting files of the directory one by one leaves the files that are not among them. -/
theorem foldl_delete_eq_keep (store : FileStore ν κ) (doomed : List (StoredFile ν κ)) :
    doomed.foldl (fun store file ↦ store.delete file.name) store =
      store.keep fun file ↦ decide (∀ other ∈ doomed, other.name ≠ file.name) := by
  induction doomed generalizing store with
  | nil => ext1 <;> simp [keep]
  | cons other doomed ih =>
    rw [List.foldl_cons, ih]
    ext1
    · simp only [files_keep, delete, List.filter_filter]
      refine List.filter_congr fun file _ ↦ ?_
      rw [← Bool.decide_and, decide_eq_decide, List.forall_mem_cons]
      exact and_comm.trans (and_congr_left' ne_comm)
    · rfl

/-! ### Changing the representation of the contents -/

theorem lookup_mapContent (represent : κ → κ') (store : FileStore ν κ) (name : ν) :
    (store.mapContent represent).lookup name =
      (store.lookup name).map fun file ↦
        ⟨file.inode, file.name, represent file.content, file.lastModified⟩ := by
  unfold lookup mapContent
  rw [List.find?_map]
  rfl

theorem mapContent_openAppend (represent : κ → κ') (store : FileStore ν κ) (name : ν)
    (content : κ) (now : ℕ) :
    (store.mapContent represent).openAppend name (represent content) now =
      ((store.openAppend name content now).1.mapContent represent,
        (store.openAppend name content now).2) := by
  cases h : store.lookup name with
  | some file =>
    have hmapped : (store.mapContent represent).lookup name =
        some ⟨file.inode, file.name, represent file.content, file.lastModified⟩ := by
      rw [lookup_mapContent, h, Option.map_some]
    rw [openAppend_of_some _ h, openAppend_of_some _ hmapped]
  | none =>
    have hmapped : (store.mapContent represent).lookup name = none := by
      rw [lookup_mapContent, h, Option.map_none]
    rw [openAppend_of_none _ h, openAppend_of_none _ hmapped]
    refine Prod.ext (FileStore.ext ?_ rfl) rfl
    simp [create, mapContent]

omit [DecidableEq ν] in
theorem mapContent_keep (represent : κ → κ') (store : FileStore ν κ)
    (test : StoredFile ν κ → Bool) (test' : StoredFile ν κ' → Bool)
    (htest : ∀ file : StoredFile ν κ,
      test' ⟨file.inode, file.name, represent file.content, file.lastModified⟩ = test file) :
    (store.mapContent represent).keep test' = (store.keep test).mapContent represent := by
  refine FileStore.ext ?_ rfl
  simp [keep, mapContent, List.filter_map, Function.comp_def, htest]

omit [DecidableEq ν] in
theorem mapContent_write (represent : κ → κ') (store : FileStore ν κ) (inode : ℕ)
    (change : κ → κ) (change' : κ' → κ') (now : ℕ)
    (hchange : ∀ content, change' (represent content) = represent (change content)) :
    (store.mapContent represent).write inode change' now =
      (store.write inode change now).mapContent represent := by
  refine FileStore.ext ?_ rfl
  simp only [write, mapContent, List.map_map]
  refine List.map_congr_left fun file _ ↦ ?_
  by_cases h : file.inode = inode <;> simp [writeFile, h, hchange]

end FileStore

end UvcRtmpStream.Foundations
