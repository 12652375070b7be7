/-
  SqlStatements.Proofs.Files.Resource
  ───────────────────────────────────
  **A resource without a name is the least file that ends in the extension.**

  The entries of a directory are files and directories.  Of the files whose names end in the
  extension, with a point in front of it, the one whose name comes first by code point is
  the resource; if there is no such file, there is none.  The set of the entries decides
  this, not the order in which they are listed, and the script in the resource is the script
  in that file.

  All this holds as long as the path of no entry reaches the limit of the system.  Every
  entry is asked what it is, also those whose names rule them out, and the system refuses to
  say so of one whose path is too long: then the search ends with the fault as it is,
  although another file may be the least, and although loading from a file that cannot be
  read is refused with a code.

  Main results:

    • `Lists.entry_eq`           — what the system finds at the path of an entry,
    • `isLeast_of_leastName`     — the least of some names,
    • `matchingNames_cases`      — the files among the entries that end in a suffix, and the
      one way in which looking for them fails,
    • `findResource_dotted`      — the extension with its point and without,
    • `findResource_least`       — the resource of a directory, and its script.
-/
import Mathlib.Data.String.Basic
import Mathlib.Order.Bounds.Basic
import SqlStatements.Files.Resource

namespace SqlStatements.Files

open Encoding (ForeignCodecs)

/-! ## §1. Directories and their entries. -/

/-- A name that an entry of a directory may have. -/
structure EntryName (name : String) : Prop where
  not_up : name ≠ ".."
  short : name.utf8ByteSize ≤ nameLimit
  no_nul : name.toList.contains '\x00' = false

instance (name : String) : Decidable (EntryName name) :=
  decidable_of_iff
    (name ≠ ".." ∧ name.utf8ByteSize ≤ nameLimit ∧ name.toList.contains '\x00' = false)
    ⟨fun h => ⟨h.1, h.2.1, h.2.2⟩, fun h => ⟨h.not_up, h.short, h.no_nul⟩⟩

/-- The path leads to a directory with these entries, whose names differ and are such as
entries may have. -/
structure Lists (disk : Disk) (root : Path) (entries : List (String × Entry)) : Prop where
  directory : disk.entry root = .ok (.directory entries)
  distinct : (entries.map (·.1)).Nodup
  entryName : ∀ e ∈ entries, EntryName e.1

/-- Whether the path of an entry reaches the limit that the system sets. -/
def TooLong (root : Path) (name : String) : Prop :=
  pathLimit ≤ (entryPath root name).text.utf8ByteSize

instance (root : Path) (name : String) : Decidable (TooLong root name) :=
  inferInstanceAs (Decidable (_ ≤ _))

/-- Whether the system can be asked for every one of some entries. -/
def WithinReach (root : Path) (entries : List (String × Entry)) : Prop :=
  ∀ e ∈ entries, ¬ TooLong root e.1

instance (root : Path) (entries : List (String × Entry)) :
    Decidable (WithinReach root entries) :=
  inferInstanceAs (Decidable (∀ e ∈ entries, _))

/-- One more name leads from a directory to its entry of this name. -/
theorem follow_concat {above : List Entry} {here : Entry} {parts : List String}
    {entries : List (String × Entry)} {name : String} {entry : Entry}
    (hdirectory : follow above here parts = .ok (.directory entries)) (hname : EntryName name)
    (hentry : (Entry.directory entries).child? name = some entry) :
    follow above here (parts ++ [name]) = .ok entry := by
  -- along the parts, wherever they have led to so far and whatever lies above
  induction parts generalizing above here with
  | nil =>
      obtain rfl : here = .directory entries := Except.ok.inj hdirectory
      rw [List.nil_append]
      unfold follow
      rw [if_neg (by simp [Entry.isDirectory]), if_neg hname.not_up,
        if_neg (Nat.not_lt.mpr hname.short), hentry]
      rfl
  | cons part rest ih =>
      rw [List.cons_append]
      unfold follow at hdirectory ⊢
      split_ifs at hdirectory ⊢
      · -- two points lead back to the directory before, at the root to itself
        cases above with
        | nil => exact ih hdirectory
        | cons parent more => exact ih hdirectory
      · cases hchild : here.child? part with
        | none =>
            rw [hchild] at hdirectory
            exact nomatch hdirectory
        | some inner =>
            rw [hchild] at hdirectory
            exact ih hdirectory

/-- Where names differ, a name stands for one entry. -/
theorem find?_name {entries : List (String × Entry)} (hnodup : (entries.map (·.1)).Nodup)
    {e : String × Entry} (he : e ∈ entries) : entries.find? (·.1 == e.1) = some e := by
  induction entries with
  | nil => exact absurd he List.not_mem_nil
  | cons first rest ih =>
      obtain ⟨hfirst, hrest⟩ := List.nodup_cons.mp hnodup
      rcases List.mem_cons.mp he with rfl | he
      · exact List.find?_cons_of_pos (by simp)
      · have hother : first.1 ≠ e.1 := by
          rintro h
          exact hfirst (List.mem_map.mpr ⟨e, he, h.symm⟩)
        rw [List.find?_cons_of_neg (by simpa using hother)]
        exact ih hrest he

/-- **An entry is found at its own path**, unless that is too long. -/
theorem Lists.entry_eq {disk : Disk} {root : Path} {entries : List (String × Entry)}
    (h : Lists disk root entries) {e : String × Entry} (he : e ∈ entries) :
    disk.entry (entryPath root e.1)
      = if TooLong root e.1 then .error .nameTooLong else .ok e.2 := by
  have hdirectory := h.directory
  unfold Disk.entry at hdirectory ⊢
  split_ifs at hdirectory with hnul hlong
  have hnul' : (entryPath root e.1).hasNul = false := by
    rw [Path.hasNul, entryPath, List.any_append, ← Path.hasNul, Bool.eq_false_of_not_eq_true hnul,
      Bool.false_or, List.any_cons, (h.entryName e he).no_nul]
    rfl
  have habsolute : disk.absoluteParts (entryPath root e.1) = disk.absoluteParts root ++ [e.1] := by
    unfold Disk.absoluteParts entryPath
    cases root.anchor <;> simp
  have hchild : (Entry.directory entries).child? e.1 = some e.2 :=
    congrArg (Option.map Prod.snd) (find?_name h.distinct he)
  rw [if_neg (by simp [hnul']), habsolute, follow_concat hdirectory (h.entryName e he) hchild]
  rfl

/-! ## §2. The files that end in a suffix. -/

/-- The names of the files among some entries that end in a suffix. -/
def filesEndingIn (suffix : String) (entries : List (String × Entry)) : Set String :=
  {name | ∃ e ∈ entries, e.2.isFile = true ∧ suffix.toList <:+ e.1.toList ∧ e.1 = name}

theorem filesEndingIn_perm (suffix : String) {entries entries' : List (String × Entry)}
    (h : entries.Perm entries') : filesEndingIn suffix entries' = filesEndingIn suffix entries := by
  ext name
  exact exists_congr fun e => and_congr_left fun _ => h.mem_iff.symm

/-- The first entry is one of them, or it is not. -/
theorem mem_filesEndingIn_cons {suffix : String} {e : String × Entry}
    {entries : List (String × Entry)} {name : String} :
    name ∈ filesEndingIn suffix (e :: entries)
      ↔ (e.2.isFile = true ∧ suffix.toList <:+ e.1.toList ∧ e.1 = name)
        ∨ name ∈ filesEndingIn suffix entries :=
  List.exists_mem_cons_iff _ e entries

/-- What the system says of an entry that is found at its own path unless that is too long. -/
theorem isFile_entryPath {disk : Disk} {root : Path} {e : String × Entry}
    (hentry : disk.entry (entryPath root e.1)
      = if TooLong root e.1 then .error .nameTooLong else .ok e.2) :
    disk.isFile (entryPath root e.1)
      = if TooLong root e.1 then .error .nameTooLong else .ok e.2.isFile := by
  rw [Disk.isFile, Disk.ask, hentry]
  split_ifs <;> rfl

/-- **The names that are asked for are those of the files that end in the suffix**, unless
the path of some entry is too long, and then there is no answer but the fault of such an
entry. -/
theorem matchingNames_cases {disk : Disk} {root : Path} (suffix : String)
    {entries : List (String × Entry)}
    (hentry : ∀ e ∈ entries, disk.entry (entryPath root e.1)
      = if TooLong root e.1 then .error .nameTooLong else .ok e.2) :
    (WithinReach root entries
        ∧ ∃ names, matchingNames disk root suffix (entries.map (·.1)) = .ok names
          ∧ {name | name ∈ names} = filesEndingIn suffix entries)
      ∨ ∃ e ∈ entries, TooLong root e.1
        ∧ matchingNames disk root suffix (entries.map (·.1))
          = .error (.fault (entryPath root e.1) .nameTooLong) := by
  induction entries with
  | nil => exact .inl ⟨nofun, [], rfl, by ext; simp [filesEndingIn]⟩
  | cons e rest ih =>
      have hfile := isFile_entryPath (hentry e List.mem_cons_self)
      rw [List.map_cons, matchingNames, hfile]
      by_cases hlong : TooLong root e.1
      · rw [if_pos hlong]
        exact .inr ⟨e, List.mem_cons_self, hlong, rfl⟩
      rw [if_neg hlong]
      rcases ih fun e he => hentry e (List.mem_cons_of_mem _ he) with
        ⟨hreach, names, hnames, hmem⟩ | ⟨other, hother, hfault, herror⟩
      · refine .inl ⟨List.forall_mem_cons.mpr ⟨hlong, hreach⟩, ?_⟩
        rw [hnames]
        refine ⟨_, rfl, Set.ext fun name => ?_⟩
        rw [mem_filesEndingIn_cons, ← hmem, Set.mem_ofPred_eq]
        dsimp only
        -- the name of the first entry is put in front, or left out
        by_cases hwanted : e.2.isFile = true ∧ suffix.toList <:+ e.1.toList
        · rw [if_pos (by simpa using hwanted), List.mem_cons]
          exact or_congr_left ⟨fun h => ⟨hwanted.1, hwanted.2, h.symm⟩, fun h => h.2.2.symm⟩
        · rw [if_neg (by simpa using hwanted)]
          exact (or_iff_right fun h => hwanted ⟨h.1, h.2.1⟩).symm
      · refine .inr ⟨other, List.mem_cons_of_mem _ hother, hfault, ?_⟩
        rw [herror]
        rfl

/-! ## §3. The least name. -/

theorem leastName_eq_none_iff {names : List String} : leastName names = none ↔ names = [] := by
  cases names with
  | nil => exact iff_of_true rfl rfl
  | cons first rest =>
      refine iff_of_false (fun h => ?_) (List.cons_ne_nil _ _)
      rw [leastName] at h
      split at h <;> exact nomatch h

/-- **The least of some names**, in the order of code points. -/
theorem isLeast_of_leastName {names : List String} {name : String}
    (h : leastName names = some name) : IsLeast {n | n ∈ names} name := by
  induction names generalizing name with
  | nil => exact nomatch h
  | cons first rest ih =>
      have hinsert : {n | n ∈ first :: rest} = insert first {n | n ∈ rest} := by
        ext
        simp
      rw [leastName] at h
      cases hrest : leastName rest with
      | none =>
          rw [hrest] at h
          obtain rfl : first = name := Option.some.inj h
          rw [leastName_eq_none_iff.mp hrest]
          simp
      | some other =>
          rw [hrest] at h
          obtain rfl : (if other < first then other else first) = name := Option.some.inj h
          rw [hinsert, ← min_def_lt, min_comm]
          exact (ih hrest).insert first

/-! ## §4. Extensions. -/

/-- An extension with a point in front, put there if it has none. -/
def dotted (e : String) : String := if ['.'] <+: e.toList then e else "." ++ e

theorem dotted_of_prefix {e : String} (h : ['.'] <+: e.toList) : dotted e = e := if_pos h

theorem dotted_dotted (e : String) : dotted (dotted e) = dotted e := by
  refine dotted_of_prefix ?_
  unfold dotted
  split
  next h => exact h
  next h => simp

theorem dotted_ne_empty {e : String} (h : e ≠ "") : dotted e ≠ "" := by
  unfold dotted
  split
  · exact h
  · exact fun hempty => by simpa using congrArg String.toList hempty

theorem suffixOf_some {e : String} (h : e ≠ "") : suffixOf (some e) = dotted e := by
  have hpoint : e.toList.head? = some '.' ↔ ['.'] <+: e.toList := by
    cases e.toList <;> simp [eq_comm]
  unfold suffixOf dotted
  dsimp only
  rw [if_neg h]
  simp only [hpoint]

/-- **The point in front of an extension makes no difference**, wherever a resource is looked
for and with a name or without. -/
theorem findResource_dotted {e : String} (h : e ≠ "") (disk : Disk) (name : Option String)
    (location : Location) :
    findResource disk name (some (dotted e)) location
      = findResource disk name (some e) location := by
  have hsuffix : suffixOf (some (dotted e)) = suffixOf (some e) := by
    rw [suffixOf_some (dotted_ne_empty h), suffixOf_some h, dotted_dotted]
  unfold findResource
  rw [hsuffix]

/-! ## §5. The resource of a directory. -/

/-- Without a name, a directory is searched for the files that end in the extension. -/
theorem findResource_directory {disk : Disk} {root : Path} {entries : List (String × Entry)}
    (hdirectory : disk.entry root = .ok (.directory entries)) {e : String} (he : e ≠ "") :
    findResource disk none (some e) (.directory root)
      = (matchingNames disk root (dotted e) (entries.map (·.1))).map fun names =>
          (leastName names).map (entryPath root) := by
  have hroot : disk.isDirectory root = .ok true := by
    rw [Disk.isDirectory, Disk.ask, hdirectory]
    rfl
  have hlist : disk.list root = entries := by
    rw [Disk.list, hdirectory]
    rfl
  rw [findResource, suffixOf_some he, if_neg (by simp [dotted_ne_empty he]), locationRoot]
  dsimp only
  rw [hroot]
  dsimp only
  rw [resourceIn, hlist]

section Directory

variable {disk disk' : Disk} {root : Path} {entries entries' : List (String × Entry)}
  {e e' : String}

/-- The resource of a directory is its least file, or there is no such file, or the path of
some entry is too long. -/
theorem findResource_cases (hlists : Lists disk root entries) (he : e ≠ "") :
    (WithinReach root entries
        ∧ ((filesEndingIn (dotted e) entries = ∅
            ∧ findResource disk none (some e) (.directory root) = .ok none)
          ∨ ∃ name, IsLeast (filesEndingIn (dotted e) entries) name
            ∧ findResource disk none (some e) (.directory root)
              = .ok (some (entryPath root name))))
      ∨ ∃ f ∈ entries, TooLong root f.1
        ∧ findResource disk none (some e) (.directory root)
          = .error (.fault (entryPath root f.1) .nameTooLong) := by
  rw [findResource_directory hlists.directory he]
  rcases matchingNames_cases (dotted e) fun f hf => hlists.entry_eq hf with
    ⟨hreach, names, hnames, hfiles⟩ | ⟨f, hf, hlong, herror⟩
  · refine .inl ⟨hreach, ?_⟩
    rw [hnames, ← hfiles]
    cases hleast : leastName names with
    | none =>
        refine .inl ⟨?_, by simp [Except.map, hleast]⟩
        rw [leastName_eq_none_iff.mp hleast]
        simp
    | some name => exact .inr ⟨name, isLeast_of_leastName hleast, by simp [Except.map, hleast]⟩
  · exact .inr ⟨f, hf, hlong, by rw [herror]; rfl⟩

theorem findResource_eq_none_iff (hlists : Lists disk root entries) (he : e ≠ "") :
    findResource disk none (some e) (.directory root) = .ok none
      ↔ WithinReach root entries ∧ filesEndingIn (dotted e) entries = ∅ := by
  rcases findResource_cases hlists he with
    ⟨hreach, ⟨hempty, hnone⟩ | ⟨name, hleast, hname⟩⟩ | ⟨f, hf, hlong, herror⟩
  · exact iff_of_true hnone ⟨hreach, hempty⟩
  · rw [hname]
    exact iff_of_false nofun fun h => Set.nonempty_iff_ne_empty.mp ⟨name, hleast.1⟩ h.2
  · rw [herror]
    exact iff_of_false nofun fun h => h.1 f hf hlong

theorem findResource_eq_some_iff (hlists : Lists disk root entries) (he : e ≠ "")
    (path : Path) :
    findResource disk none (some e) (.directory root) = .ok (some path)
      ↔ WithinReach root entries
        ∧ ∃ name, IsLeast (filesEndingIn (dotted e) entries) name
          ∧ entryPath root name = path := by
  rcases findResource_cases hlists he with
    ⟨hreach, ⟨hempty, hnone⟩ | ⟨name, hleast, hname⟩⟩ | ⟨f, hf, hlong, herror⟩
  · rw [hnone, hempty]
    exact iff_of_false nofun fun ⟨_, name, hleast, _⟩ => Set.notMem_empty name hleast.1
  · rw [hname]
    constructor
    · intro h
      exact ⟨hreach, name, hleast, Option.some.inj (Except.ok.inj h)⟩
    · rintro ⟨-, other, hother, rfl⟩
      rw [hleast.unique hother]
  · rw [herror]
    exact iff_of_false nofun fun h => h.1 f hf hlong

theorem exists_findResource_eq_error_iff (hlists : Lists disk root entries) (he : e ≠ "") :
    (∃ error, findResource disk none (some e) (.directory root) = .error error)
      ↔ ∃ f ∈ entries, TooLong root f.1 := by
  rcases findResource_cases hlists he with
    ⟨hreach, ⟨hempty, hfound⟩ | ⟨name, hleast, hfound⟩⟩ | ⟨f, hf, hlong, herror⟩
  · rw [hfound]
    exact iff_of_false nofun fun ⟨f, hf, hlong⟩ => hreach f hf hlong
  · rw [hfound]
    exact iff_of_false nofun fun ⟨f, hf, hlong⟩ => hreach f hf hlong
  · exact iff_of_true ⟨_, herror⟩ ⟨f, hf, hlong⟩

theorem findResource_eq_error (hlists : Lists disk root entries) (he : e ≠ "")
    {error : ResourceError}
    (h : findResource disk none (some e) (.directory root) = .error error) :
    ∃ f ∈ entries, TooLong root f.1 ∧ error = .fault (entryPath root f.1) .nameTooLong := by
  rcases findResource_cases hlists he with
    ⟨-, ⟨-, hfound⟩ | ⟨name, -, hfound⟩⟩ | ⟨f, hf, hlong, herror⟩
  · exact nomatch hfound.symm.trans h
  · exact nomatch hfound.symm.trans h
  · exact ⟨f, hf, hlong, Except.error.inj (h.symm.trans herror)⟩

/-- Directories with the same entries, in any order, hold the same resource for extensions
that differ by the point in front at most. -/
theorem findResource_congr (hlists : Lists disk root entries)
    (hlists' : Lists disk' root entries') (hperm : entries.Perm entries') (he : e ≠ "")
    (he' : e' ≠ "") (hdotted : dotted e' = dotted e) (found : Option Path) :
    findResource disk' none (some e') (.directory root) = .ok found
      ↔ findResource disk none (some e) (.directory root) = .ok found := by
  have hfiles : filesEndingIn (dotted e') entries' = filesEndingIn (dotted e) entries := by
    rw [hdotted, filesEndingIn_perm (dotted e) hperm]
  have hreach : WithinReach root entries' ↔ WithinReach root entries :=
    forall_congr' fun f => imp_congr_left hperm.mem_iff.symm
  cases found with
  | none =>
      rw [findResource_eq_none_iff hlists he, findResource_eq_none_iff hlists' he', hfiles, hreach]
  | some path =>
      rw [findResource_eq_some_iff hlists he, findResource_eq_some_iff hlists' he', hfiles, hreach]

end Directory

/-! ## §6. The script in a resource. -/

section Script

variable {disk disk' : Disk} {name extension : Option String} {location : Location}

/-- Where there is no answer to what the resource is, there is none to what its script is. -/
theorem scriptOfResource_of_error {error : ResourceError}
    (h : findResource disk name extension location = .error error) (encoding : Option String)
    (settings : Settings) (codecs : ForeignCodecs) :
    scriptOfResource disk name extension location encoding settings codecs
      = .error (.lookup error) := by
  rw [scriptOfResource, h]

/-- The script in a resource is that in the file that is found, with all its failures. -/
theorem scriptOfResource_of_some {path : Path}
    (h : findResource disk name extension location = .ok (some path))
    (encoding : Option String) (settings : Settings) (codecs : ForeignCodecs) :
    scriptOfResource disk name extension location encoding settings codecs
      = ((scriptOfFile disk path encoding settings codecs).map some).mapError .load := by
  rw [scriptOfResource, h]
  dsimp only
  cases scriptOfFile disk path encoding settings codecs <;> rfl

/-- **A script is left out only where there is no resource.** -/
theorem scriptOfResource_eq_none_iff {encoding : Option String} {settings : Settings}
    {codecs : ForeignCodecs} :
    scriptOfResource disk name extension location encoding settings codecs = .ok none
      ↔ findResource disk name extension location = .ok none := by
  unfold scriptOfResource
  cases findResource disk name extension location with
  | error error => exact iff_of_false nofun nofun
  | ok found =>
      cases found with
      | none => exact iff_of_true rfl rfl
      | some path =>
          dsimp only
          cases scriptOfFile disk path encoding settings codecs <;> exact iff_of_false nofun nofun

/-- The script in a file depends on nothing but the entry at its path. -/
theorem scriptOfFile_congr {path : Path} (h : disk'.entry path = disk.entry path)
    (encoding : Option String) (settings : Settings) (codecs : ForeignCodecs) :
    scriptOfFile disk' path encoding settings codecs
      = scriptOfFile disk path encoding settings codecs := by
  unfold scriptOfFile readText readBytes Disk.readFile
  rw [h]

/-- A file whose path is too long is refused with a code. -/
theorem scriptOfFile_of_nameTooLong {path : Path} (h : disk.entry path = .error .nameTooLong)
    (encoding : Option String) (settings : Settings) (codecs : ForeignCodecs) :
    scriptOfFile disk path encoding settings codecs
      = .error (.source (.unreadable path .nameTooLong)) := by
  unfold scriptOfFile readText readBytes Disk.readFile
  rw [h]
  rfl

end Script

section Directory

variable {disk disk' : Disk} {root : Path} {entries entries' : List (String × Entry)}
  {e e' : String}

/-- **The script in the resource of a directory is that in its least file** exactly if the
system can be asked for every entry. -/
theorem scriptOfResource_eq_iff (hlists : Lists disk root entries) (he : e ≠ "") {name : String}
    (hleast : IsLeast (filesEndingIn (dotted e) entries) name) (encoding : Option String)
    (settings : Settings) (codecs : ForeignCodecs) :
    scriptOfResource disk none (some e) (.directory root) encoding settings codecs
        = ((scriptOfFile disk (entryPath root name) encoding settings codecs).map some).mapError
            .load
      ↔ WithinReach root entries := by
  constructor
  · intro h f hf hlong
    obtain ⟨error, herror⟩ :=
      (exists_findResource_eq_error_iff hlists he).mpr ⟨f, hf, hlong⟩
    rw [scriptOfResource_of_error herror] at h
    cases hfile : scriptOfFile disk (entryPath root name) encoding settings codecs <;>
      rw [hfile] at h <;> exact nomatch h
  · intro hreach
    exact scriptOfResource_of_some
      ((findResource_eq_some_iff hlists he _).mpr ⟨hreach, name, hleast, rfl⟩) encoding settings
      codecs

/-- Directories with the same entries, in any order, hold the same script. -/
theorem scriptOfResource_congr (hlists : Lists disk root entries)
    (hlists' : Lists disk' root entries') (hperm : entries.Perm entries')
    (hreach : WithinReach root entries) (he : e ≠ "") (he' : e' ≠ "")
    (hdotted : dotted e' = dotted e) (encoding : Option String) (settings : Settings)
    (codecs : ForeignCodecs) :
    scriptOfResource disk' none (some e') (.directory root) encoding settings codecs
      = scriptOfResource disk none (some e) (.directory root) encoding settings codecs := by
  have hfound := findResource_congr hlists hlists' hperm he he' hdotted
  rcases findResource_cases hlists he with
    ⟨-, ⟨-, hnone⟩ | ⟨name, hleast, hname⟩⟩ | ⟨f, hf, hlong, -⟩
  · rw [scriptOfResource_eq_none_iff.mpr hnone,
      scriptOfResource_eq_none_iff.mpr ((hfound none).mpr hnone)]
  · -- both disks have the same entry at the path of the least file
    obtain ⟨file, hmem, -, -, rfl⟩ := hleast.1
    have hentry : disk'.entry (entryPath root file.1) = disk.entry (entryPath root file.1) := by
      rw [hlists.entry_eq hmem, hlists'.entry_eq (hperm.mem_iff.mp hmem)]
    rw [scriptOfResource_of_some hname, scriptOfResource_of_some ((hfound _).mpr hname),
      scriptOfFile_congr hentry]
  · exact absurd hlong (hreach f hf)

end Directory

/-- **Without a name, the resource of a directory is the least file that ends in the
extension**, and there is none exactly if there is no such file, provided that the system can
be asked for every entry.  If it cannot, the search ends with the fault of an entry whose path
is too long, and so does the loading of the script, while loading from the file itself is
refused with a code.  Otherwise the script is left out exactly where there is no such file,
and is else the script in the least, or fails as that does.  Neither the order in which the
entries are listed nor a point in front of the extension makes a difference. -/
theorem findResource_least {disk : Disk} {root : Path} {entries : List (String × Entry)}
    (hlists : Lists disk root entries) {e : String} (he : e ≠ "") :
    ((∃ error, findResource disk none (some e) (.directory root) = .error error)
        ↔ ∃ f ∈ entries, TooLong root f.1)
      ∧ (∀ error, findResource disk none (some e) (.directory root) = .error error →
        ∃ f ∈ entries, TooLong root f.1 ∧ error = .fault (entryPath root f.1) .nameTooLong)
      ∧ (findResource disk none (some e) (.directory root) = .ok none
        ↔ WithinReach root entries ∧ filesEndingIn (dotted e) entries = ∅)
      ∧ (∀ path, findResource disk none (some e) (.directory root) = .ok (some path)
        ↔ WithinReach root entries
          ∧ ∃ name, IsLeast (filesEndingIn (dotted e) entries) name ∧ entryPath root name = path)
      ∧ (∀ encoding settings codecs,
        (∀ error, findResource disk none (some e) (.directory root) = .error error →
            scriptOfResource disk none (some e) (.directory root) encoding settings codecs
              = .error (.lookup error))
          ∧ (scriptOfResource disk none (some e) (.directory root) encoding settings codecs
              = .ok none
            ↔ WithinReach root entries ∧ filesEndingIn (dotted e) entries = ∅)
          ∧ (∀ name, IsLeast (filesEndingIn (dotted e) entries) name →
            (scriptOfResource disk none (some e) (.directory root) encoding settings codecs
                = ((scriptOfFile disk (entryPath root name) encoding settings codecs).map
                    some).mapError .load
              ↔ WithinReach root entries))
          ∧ ∀ f ∈ entries, TooLong root f.1 →
            scriptOfFile disk (entryPath root f.1) encoding settings codecs
              = .error (.source (.unreadable (entryPath root f.1) .nameTooLong)))
      ∧ ∀ disk' entries' e', Lists disk' root entries' → entries.Perm entries' →
        e' ≠ "" → dotted e' = dotted e →
        (∀ found, findResource disk' none (some e') (.directory root) = .ok found
            ↔ findResource disk none (some e) (.directory root) = .ok found)
          ∧ (WithinReach root entries → ∀ encoding settings codecs,
            scriptOfResource disk' none (some e') (.directory root) encoding settings codecs
              = scriptOfResource disk none (some e) (.directory root) encoding settings
                codecs) := by
  have hnone := findResource_eq_none_iff hlists he
  refine ⟨exists_findResource_eq_error_iff hlists he,
    fun error => findResource_eq_error hlists he, hnone, findResource_eq_some_iff hlists he,
    fun encoding settings codecs => ⟨fun error herror => ?_, ?_, fun name hleast => ?_,
      fun f hf hlong => ?_⟩, fun disk' entries' e' hlists' hperm he' hdotted => ⟨?_, ?_⟩⟩
  · exact scriptOfResource_of_error herror encoding settings codecs
  · exact scriptOfResource_eq_none_iff.trans hnone
  · exact scriptOfResource_eq_iff hlists he hleast encoding settings codecs
  · have hentry := hlists.entry_eq hf
    rw [if_pos hlong] at hentry
    exact scriptOfFile_of_nameTooLong hentry encoding settings codecs
  · exact findResource_congr hlists hlists' hperm he he' hdotted
  · intro hreach
    exact scriptOfResource_congr hlists hlists' hperm hreach he he' hdotted

/-- A directory with one that is named like a script, a file whose name is nothing but the
extension, and one whose name has the extension without its point. -/
def sampleEntries : List (String × Entry) :=
  [("a.sql", .file []), ("0.sql", .directory []), (".sql", .file []), ("sql", .file [])]

/-- A disk with a directory of some entries. -/
def sampleDisk (entries : List (String × Entry)) : Disk :=
  ⟨.directory [("res", .directory entries)], []⟩

/-- The directory may be listed in any order. -/
theorem lists_sampleDisk {entries : List (String × Entry)} (h : entries.Perm sampleEntries) :
    Lists (sampleDisk entries) ⟨.root, ["res"]⟩ entries := by
  have hnames : ∀ e ∈ sampleEntries, EntryName e.1 := by decide
  exact ⟨rfl, (h.map _).nodup_iff.mpr (by decide), fun e he => hnames e (h.mem_iff.mp he)⟩

theorem isLeast_sampleEntries : IsLeast (filesEndingIn (dotted "sql") sampleEntries) ".sql" := by
  refine ⟨⟨(".sql", .file []), by simp [sampleEntries], rfl, by decide, rfl⟩, ?_⟩
  rintro _ ⟨e, he, hfile, hsuffix, rfl⟩
  simp only [sampleEntries, List.mem_cons, List.not_mem_nil, or_false] at he
  rcases he with rfl | rfl | rfl | rfl
  · decide
  · exact absurd hfile (by decide)
  · exact le_rfl
  · exact absurd hsuffix (by decide)

/-- The directory listed in its order and from the end, and the extension without its point
and with it. -/
theorem findResource_least_sample :
    findResource (sampleDisk sampleEntries) none (some "sql") (.directory ⟨.root, ["res"]⟩)
        = .ok (some ⟨.root, ["res", ".sql"]⟩)
      ∧ findResource (sampleDisk sampleEntries.reverse) none (some ".sql")
          (.directory ⟨.root, ["res"]⟩)
        = .ok (some ⟨.root, ["res", ".sql"]⟩) := by
  have hlists := lists_sampleDisk (.refl sampleEntries)
  have hreversed := lists_sampleDisk sampleEntries.reverse_perm
  obtain ⟨-, -, -, hsome, -, hcongr⟩ := findResource_least hlists (show "sql" ≠ "" by decide)
  have hfound := (hsome ⟨.root, ["res", ".sql"]⟩).mpr
    ⟨by decide, ".sql", isLeast_sampleEntries, rfl⟩
  have hother := (hcongr _ _ ".sql" hreversed sampleEntries.reverse_perm.symm (by decide) rfl).1
  exact ⟨hfound, (hother _).mpr hfound⟩

/-! ## §7. A path at the limit. -/

/-- A part that leads into a directory and one that leads back, some times over. -/
def detours (count : Nat) : List String := (List.replicate count ["d", ".."]).flatten

theorem detours_succ (count : Nat) : detours (count + 1) = "d" :: ".." :: detours count := rfl

/-- Detours lead back to where they begin. -/
theorem follow_detours {entries : List (String × Entry)}
    (hchild : (Entry.directory entries).child? "d" = some (.directory [])) (count : Nat) :
    follow [] (.directory entries) (detours count) = .ok (.directory entries) := by
  induction count with
  | zero => rfl
  | succ count ih =>
      have hshort : ¬ nameLimit < "d".utf8ByteSize := by decide
      rw [detours_succ, follow, if_neg (by simp [Entry.isDirectory]), if_neg (by decide),
        if_neg hshort, hchild]
      dsimp only
      rw [follow, if_neg (by simp [Entry.isDirectory]), if_pos rfl]
      exact ih

theorem hasNul_detours (anchor : Anchor) (count : Nat) :
    (⟨anchor, detours count⟩ : Path).hasNul = false := by
  induction count with
  | zero => rfl
  | succ count ih =>
      rw [Path.hasNul] at ih ⊢
      rw [detours_succ, List.any_cons, List.any_cons, ih]
      decide

theorem text_relative {parts : List String} (h : parts ≠ []) :
    (⟨.relative, parts⟩ : Path).text = String.intercalate "/" parts := by
  obtain ⟨part, rest, rfl⟩ := List.exists_cons_of_ne_nil h
  exact String.empty_append

/-- Every detour takes five bytes of the text of a path. -/
theorem byteSize_detours_append (count : Nat) {rest : List String} (h : rest ≠ []) :
    (String.intercalate "/" (detours count ++ rest)).utf8ByteSize
      = 5 * count + (String.intercalate "/" rest).utf8ByteSize := by
  have hin : "d".utf8ByteSize = 1 := by decide
  have hback : "..".utf8ByteSize = 2 := by decide
  have hslash : "/".utf8ByteSize = 1 := by decide
  induction count with
  | zero => simp [detours]
  | succ count ih =>
      have hlater : detours count ++ rest ≠ [] := List.append_ne_nil_of_right_ne_nil _ h
      rw [detours_succ, List.cons_append, List.cons_append, String.intercalate_cons_cons,
        String.intercalate_cons_of_ne_nil hlater]
      simp only [String.utf8ByteSize_append, hin, hback, hslash, ih]
      omega

/-- Detours from a directory are one more path to it, unless there are too many of them. -/
theorem lists_detours {entries : List (String × Entry)}
    (hchild : (Entry.directory entries).child? "d" = some (.directory []))
    (hdistinct : (entries.map (·.1)).Nodup) (hname : ∀ e ∈ entries, EntryName e.1) {count : Nat}
    (hsize : 5 * count + 4 < pathLimit) :
    Lists ⟨.directory entries, []⟩ ⟨.relative, detours (count + 1)⟩ entries := by
  have hlast : detours (count + 1) = detours count ++ ["d", ".."] := by
    simp [detours, List.replicate_succ']
  have hbytes : (String.intercalate "/" ["d", ".."]).utf8ByteSize = 4 := by decide
  have htext : (⟨.relative, detours (count + 1)⟩ : Path).text.utf8ByteSize = 5 * count + 4 := by
    have hpair : ["d", ".."] ≠ [] := List.cons_ne_nil _ _
    rw [hlast, text_relative (List.append_ne_nil_of_right_ne_nil _ hpair),
      byteSize_detours_append count hpair, hbytes]
  refine ⟨?_, hdistinct, hname⟩
  rw [Disk.entry, hasNul_detours, if_neg Bool.false_ne_true, if_neg (by omega)]
  exact follow_detours hchild (count + 1)

/-- The path of an entry behind detours. -/
theorem byteSize_entryPath_detours (count : Nat) (name : String) :
    (entryPath ⟨.relative, detours count⟩ name).text.utf8ByteSize
      = 5 * count + name.utf8ByteSize := by
  have hne : [name] ≠ [] := List.cons_ne_nil _ _
  have hall := byteSize_detours_append count hne
  rw [String.intercalate_singleton] at hall
  rw [entryPath, text_relative (List.append_ne_nil_of_right_ne_nil _ hne), hall]

/-- A directory with another one in it, and a script. -/
def remoteEntries : List (String × Entry) :=
  [("d", .directory []), ("ab.sql", .file "SELECT 1".toUTF8.toList)]

/-- A disk with nothing else. -/
def remoteDisk : Disk := ⟨.directory remoteEntries, []⟩

/-- The same directory, by a path of 4089 bytes. -/
def remoteRoot : Path := ⟨.relative, detours 818⟩

theorem lists_remoteDisk : Lists remoteDisk remoteRoot remoteEntries :=
  lists_detours rfl (by decide) (by decide) (by decide)

theorem tooLong_remote : TooLong remoteRoot "ab.sql" := by
  have hsize : "ab.sql".utf8ByteSize = 6 := by decide
  rw [TooLong, remoteRoot, byteSize_entryPath_detours, hsize]
  decide

theorem not_tooLong_remote : ¬ TooLong remoteRoot "d" := by
  have hsize : "d".utf8ByteSize = 1 := by decide
  rw [TooLong, remoteRoot, byteSize_entryPath_detours, hsize]
  decide

theorem isLeast_remoteEntries :
    IsLeast (filesEndingIn (dotted "sql") remoteEntries) "ab.sql" := by
  refine ⟨⟨("ab.sql", .file "SELECT 1".toUTF8.toList), by simp [remoteEntries], rfl, by decide,
    rfl⟩, ?_⟩
  rintro _ ⟨e, he, hfile, -, rfl⟩
  simp only [remoteEntries, List.mem_cons, List.not_mem_nil, or_false] at he
  rcases he with rfl | rfl
  · exact absurd hfile (by decide)
  · exact le_rfl

/-- **A file whose path is too long is the least of its directory and not found**: the search
ends with the fault of the system, and so does the loading of the script in the resource,
although the loading from this file is refused with a code. -/
theorem findResource_path_limit :
    Lists remoteDisk remoteRoot remoteEntries
      ∧ IsLeast (filesEndingIn (dotted "sql") remoteEntries) "ab.sql"
      ∧ findResource remoteDisk none (some "sql") (.directory remoteRoot)
        = .error (.fault (entryPath remoteRoot "ab.sql") .nameTooLong)
      ∧ scriptOfResource remoteDisk none (some "sql") (.directory remoteRoot) none {}
        = .error (.lookup (.fault (entryPath remoteRoot "ab.sql") .nameTooLong))
      ∧ scriptOfFile remoteDisk (entryPath remoteRoot "ab.sql") none {}
        = .error (.source (.unreadable (entryPath remoteRoot "ab.sql") .nameTooLong)) := by
  have hlists := lists_remoteDisk
  have hsql : "sql" ≠ "" := by decide
  have hfile : ("ab.sql", Entry.file "SELECT 1".toUTF8.toList) ∈ remoteEntries := by
    simp [remoteEntries]
  have hfound : findResource remoteDisk none (some "sql") (.directory remoteRoot)
      = .error (.fault (entryPath remoteRoot "ab.sql") .nameTooLong) := by
    obtain ⟨error, herror⟩ :=
      (exists_findResource_eq_error_iff hlists hsql).mpr ⟨_, hfile, tooLong_remote⟩
    obtain ⟨f, hf, hlong, rfl⟩ := findResource_eq_error hlists hsql herror
    simp only [remoteEntries, List.mem_cons, List.not_mem_nil, or_false] at hf
    rcases hf with rfl | rfl
    · exact absurd hlong not_tooLong_remote
    · exact herror
  have hentry := hlists.entry_eq hfile
  rw [if_pos tooLong_remote] at hentry
  exact ⟨hlists, isLeast_remoteEntries, hfound, scriptOfResource_of_error hfound none {} _,
    scriptOfFile_of_nameTooLong hentry none {} _⟩

end SqlStatements.Files
