import Mathlib.Data.List.Nodup
import Mathlib.Data.List.TakeWhile
import Guestkeeper.Host.FileTree
import Guestkeeper.Proofs.Outcome
import Guestkeeper.Proofs.Path
import Guestkeeper.Proofs.Table

set_option autoImplicit false

/-! # What operations do to a directory tree

Operations change what is at one or two places and leave every other place alone. Places are found
by following names from directory to directory, so a path leads to the same place in every tree
that has the same directories (`walk_mono`). In a directory that a path leads to, a file's path
leads to the file's own place, unless it is no path at all (`IsOpen.resolve_join`).
-/

namespace Guestkeeper.Host.FileTree

variable {t t' : FileTree} {current place target q : List String} {content : Content}

/-! ## What is at a place -/

theorem find?_put (t : FileTree) (place : List String) (content : Content) (q : List String) :
    (t.put place content).entries.find? q =
      if place = q then some ⟨place, content⟩ else t.entries.find? q :=
  Table.find?_insert t.entries ⟨place, content⟩ q

theorem find?_erase (t : FileTree) (place q : List String) :
    (t.erase place).entries.find? q = if place = q then none else t.entries.find? q := by
  rw [erase, Table.find?_filter]
  cases hq : t.entries.find? q with
  | none => simp
  | some e =>
      have hpath : e.path = q := (Table.find?_eq_some_iff.1 hq).2
      by_cases hplace : place = q
      · simp [hpath, hplace]
      · simp [hpath, hplace, Ne.symm hplace]

theorem lookup_of_ne_nil (t : FileTree) (hq : q ≠ []) :
    t.lookup q = (t.entries.find? q).map Entry.content := by
  rw [lookup, if_neg (by simpa using hq)]

theorem lookup_put (t : FileTree) (content : Content) (hplace : place ≠ []) (q : List String) :
    (t.put place content).lookup q = if place = q then some content else t.lookup q := by
  by_cases hq : q = []
  · subst hq
    rw [if_neg hplace]
    rfl
  · rw [lookup_of_ne_nil _ hq, find?_put, lookup_of_ne_nil t hq]
    split <;> rfl

theorem lookup_put_name (t : FileTree) (place : List String) (name : String) (content : Content)
    (other : String) : (t.put (place ++ [name]) content).lookup (place ++ [other]) =
      if name = other then some content else t.lookup (place ++ [other]) := by
  rw [lookup_put t content (by simp)]
  simp

theorem lookup_erase (t : FileTree) (hplace : place ≠ []) (q : List String) :
    (t.erase place).lookup q = if place = q then none else t.lookup q := by
  by_cases hq : q = []
  · subst hq
    rw [if_neg hplace]
    rfl
  · rw [lookup_of_ne_nil _ hq, find?_erase, lookup_of_ne_nil t hq]
    split <;> rfl

theorem lookup_erase_name (t : FileTree) (place : List String) (name other : String) :
    (t.erase (place ++ [name])).lookup (place ++ [other]) =
      if name = other then none else t.lookup (place ++ [other]) := by
  rw [lookup_erase t (by simp)]
  simp

theorem ext_find? (h : ∀ q, t.entries.find? q = t'.entries.find? q) : t = t' :=
  congrArg FileTree.mk (Table.ext_find? h)

/-- Taking away what is not there changes nothing. -/
theorem erase_of_lookup_eq_none (hplace : place ≠ []) (h : t.lookup place = none) :
    t.erase place = t := by
  have hfree : t.entries.find? place = none := by
    simpa [lookup_of_ne_nil t hplace] using h
  refine ext_find? fun q => ?_
  rw [find?_erase]
  split
  · next hq => rw [← hq, hfree]
  · rfl

theorem erase_put (t : FileTree) (place : List String) (content : Content) :
    (t.put place content).erase place = t.erase place := by
  refine ext_find? fun q => ?_
  simp only [find?_erase, find?_put]
  split <;> rfl

theorem erase_erase (t : FileTree) (place : List String) :
    (t.erase place).erase place = t.erase place := by
  refine ext_find? fun q => ?_
  simp only [find?_erase]
  split <;> rfl

/-- A file without a hole is its data. -/
theorem bytes_file (data : ByteArray) : (Content.file data 0).bytes = data :=
  ByteArray.append_empty

theorem put_put (t : FileTree) (place : List String) (first second : Content) :
    (t.put place first).put place second = t.put place second := by
  refine ext_find? fun q => ?_
  simp only [find?_put]
  split <;> rfl

/-! ## Following names -/

/-- Directories of the first tree are directories of the second. -/
def KeepsDirectories (t t' : FileTree) : Prop :=
  ∀ q, t.lookup q = some .directory → t'.lookup q = some .directory

theorem KeepsDirectories.refl (t : FileTree) : t.KeepsDirectories t := fun _ h => h

theorem KeepsDirectories.trans {t'' : FileTree} (h : t.KeepsDirectories t')
    (h' : t'.KeepsDirectories t'') : t.KeepsDirectories t'' := fun q hq => h' q (h q hq)

/-- Only what is no directory is taken away or replaced. -/
theorem KeepsDirectories.of_lookup_ne
    (h : ∀ q, t'.lookup q ≠ t.lookup q → t.lookup q ≠ some .directory) :
    t.KeepsDirectories t' := by
  intro q hq
  by_cases hsame : t'.lookup q = t.lookup q
  · rw [hsame, hq]
  · exact absurd hq (h q hsame)

/-- A name that leads on from a directory. -/
structure IsStep (name : String) : Prop where
  ne_empty : name ≠ ""
  ne_dot : name ≠ "."
  ne_dots : name ≠ ".."
  short : name.utf8ByteSize ≤ nameLimit

/-- A first name is passed over, leads back, is the last one, or leads on through a directory. -/
theorem walk_cons_eq_ok_iff {name : String} {rest : List String} :
    t.walk place (name :: rest) = .ok target ↔
      ((name = "" ∨ name = ".") ∧ t.walk place rest = .ok target) ∨
      (name = ".." ∧ t.walk place.dropLast rest = .ok target) ∨
      (IsStep name ∧ rest = [] ∧ place ++ [name] = target) ∨
      (IsStep name ∧ rest ≠ [] ∧ t.lookup (place ++ [name]) = some .directory ∧
        t.walk (place ++ [name]) rest = .ok target) := by
  rw [walk]
  -- the tests in the order in which a walk makes them
  by_cases hidle : name = "" ∨ name = "."
  · have hdots : name ≠ ".." := by
      rintro rfl
      rcases hidle with h | h
      · exact absurd h (by decide)
      · exact absurd h (by decide)
    have hstep : ¬IsStep name := fun h => hidle.elim h.ne_empty h.ne_dot
    simp [hidle, hdots, hstep]
  · by_cases hdots : name = ".."
    · subst hdots
      have hstep : ¬IsStep ".." := fun h => h.ne_dots rfl
      simp [hstep]
    · by_cases hlong : nameLimit < name.utf8ByteSize
      · have hstep : ¬IsStep name := fun h => Nat.not_lt.2 h.short hlong
        simp [hidle, hdots, hlong, hstep]
      · have hstep : IsStep name :=
          ⟨fun h => hidle (.inl h), fun h => hidle (.inr h), hdots, Nat.not_lt.1 hlong⟩
        by_cases hrest : rest = []
        · simp [hidle, hdots, hlong, hstep, hrest]
        · have hsome : rest.isEmpty = false := by simpa using hrest
          cases hfound : t.lookup (place ++ [name]) with
          | none => simp [hidle, hdots, hlong, hstep, hrest, hsome]
          | some content => cases content <;> simp [hidle, hdots, hlong, hstep, hrest, hsome]

theorem walk_mono (hkeep : t.KeepsDirectories t') {names : List String}
    (h : t.walk place names = .ok target) : t'.walk place names = .ok target := by
  induction names generalizing place with
  | nil => exact h
  | cons name rest ih =>
      rw [walk_cons_eq_ok_iff] at h ⊢
      rcases h with ⟨hidle, h⟩ | ⟨hdots, h⟩ | hlast | ⟨hstep, hrest, hdirectory, h⟩
      · exact .inl ⟨hidle, ih h⟩
      · exact .inr (.inl ⟨hdots, ih h⟩)
      · exact .inr (.inr (.inl hlast))
      · exact .inr (.inr (.inr ⟨hstep, hrest, hkeep _ hdirectory, ih h⟩))

/-- Names that are followed on are first followed up to some place. -/
theorem walk_append {names rest : List String} (h : t.walk place (names ++ rest) = .ok target) :
    ∃ middle, t.walk place names = .ok middle ∧ t.walk middle rest = .ok target := by
  induction names generalizing place with
  | nil => exact ⟨place, rfl, h⟩
  | cons name names ih =>
      rw [List.cons_append, walk_cons_eq_ok_iff] at h
      rcases h with ⟨hidle, h⟩ | ⟨hdots, h⟩ | ⟨hstep, hlast, rfl⟩ | ⟨hstep, -, hdirectory, h⟩
      · obtain ⟨middle, hnames, hrest⟩ := ih h
        exact ⟨middle, walk_cons_eq_ok_iff.2 (.inl ⟨hidle, hnames⟩), hrest⟩
      · obtain ⟨middle, hnames, hrest⟩ := ih h
        exact ⟨middle, walk_cons_eq_ok_iff.2 (.inr (.inl ⟨hdots, hnames⟩)), hrest⟩
      · obtain ⟨rfl, rfl⟩ := List.append_eq_nil_iff.1 hlast
        exact ⟨_, walk_cons_eq_ok_iff.2 (.inr (.inr (.inl ⟨hstep, rfl, rfl⟩))), rfl⟩
      · obtain ⟨middle, hnames, hrest⟩ := ih h
        refine ⟨middle, walk_cons_eq_ok_iff.2 ?_, hrest⟩
        by_cases hempty : names = []
        · subst hempty
          exact .inr (.inr (.inl ⟨hstep, rfl, Except.ok.inj hnames⟩))
        · exact .inr (.inr (.inr ⟨hstep, hempty, hdirectory, hnames⟩))

/-- Names that lead on are where they are followed to. -/
theorem eq_append_of_walk {names : List String} (hplain : ∀ name ∈ names, name ∉ ["", ".", ".."])
    (h : t.walk place names = .ok target) : target = place ++ names := by
  induction names generalizing place with
  | nil => rw [List.append_nil, Except.ok.inj h]
  | cons name names ih =>
      obtain ⟨hname, hnames⟩ := List.forall_mem_cons.1 hplain
      simp only [List.mem_cons, List.not_mem_nil, or_false, not_or] at hname
      rcases walk_cons_eq_ok_iff.1 h with ⟨hidle, -⟩ | ⟨hdots, -⟩ | ⟨-, rfl, rfl⟩ | ⟨-, -, -, h⟩
      · exact absurd hidle (not_or.2 ⟨hname.1, hname.2.1⟩)
      · exact absurd hdots hname.2.2
      · rfl
      · rw [ih hnames h, List.append_assoc, List.singleton_append]

theorem resolve_mono (hkeep : t.KeepsDirectories t') {path : String}
    (h : t.resolve current path = .ok place) : t'.resolve current path = .ok place := by
  obtain ⟨_, hcheck, hwalk⟩ := Except.bind_eq_ok_iff.1 h
  exact Except.bind_eq_ok_iff.2 ⟨(), hcheck, walk_mono hkeep hwalk⟩

/-! ## Names in a directory -/

/-- A name that leads from a directory to one of its entries. -/
structure IsName (name : String) : Prop extends IsStep name where
  slash : '/' ∉ name.toList

theorem walk_name {name : String} (hname : IsName name) :
    t.walk place [name] = .ok (place ++ [name]) :=
  walk_cons_eq_ok_iff.2 (.inr (.inr (.inl ⟨hname.toIsStep, rfl, rfl⟩)))

/-- A name is followed from the directory that other names lead to. A slash at the end of these
gives one empty name. -/
theorem walk_append_name {name : String} (hname : IsName name) {names ending : List String}
    (hending : ending = [] ∨ ending = [""]) (hwalk : t.walk place (names ++ ending) = .ok target)
    (hdirectory : t.lookup target = some .directory) :
    t.walk place (names ++ [name]) = .ok (target ++ [name]) := by
  induction names generalizing place with
  | nil =>
      have htarget : place = target := by
        rcases hending with rfl | rfl
        · exact Except.ok.inj hwalk
        · simpa [walk] using hwalk
      rw [List.nil_append, walk_name hname, htarget]
  | cons first names ih =>
      have hmore : names ++ [name] ≠ [] := by simp
      rw [List.cons_append, walk_cons_eq_ok_iff] at hwalk ⊢
      rcases hwalk with ⟨hidle, hwalk⟩ | ⟨hdots, hwalk⟩ | ⟨hstep, hlast, rfl⟩ |
        ⟨hstep, -, hfirst, hwalk⟩
      · exact .inl ⟨hidle, ih hwalk⟩
      · exact .inr (.inl ⟨hdots, ih hwalk⟩)
      · -- the last of the names led to the directory, and now there is one more
        obtain ⟨rfl, -⟩ : names = [] ∧ ending = [] := List.append_eq_nil_iff.1 hlast
        exact .inr (.inr (.inr ⟨hstep, hmore, hdirectory, walk_name hname⟩))
      · exact .inr (.inr (.inr ⟨hstep, hmore, hfirst, ih hwalk⟩))

theorem IsName.isAbsolute {name : String} (hname : IsName name) : Path.isAbsolute name = false :=
  Path.isAbsolute_of_notMem hname.slash

theorem join_injective {directory a b : String} (ha : IsName a) (hb : IsName b)
    (h : Path.join directory a = Path.join directory b) : a = b :=
  Path.name_of_join_eq ha.slash hb.slash h

theorem namesOf_of_notMem {name : String} (hname : '/' ∉ name.toList) : namesOf name = [name] := by
  rw [namesOf, List.splitOn_eq_singleton hname, List.map_singleton, String.ofList_toList]

theorem namesOf_append (above below : String) :
    namesOf (above ++ "/" ++ below) = namesOf above ++ namesOf below := by
  have hchars : (above ++ "/" ++ below).toList = above.toList ++ '/' :: below.toList := by simp
  rw [namesOf, hchars, List.splitOn_append_cons_self, List.map_append]
  rfl

/-- The names in a path that was joined to a directory's are those in the directory's path and
then that one. -/
theorem exists_namesOf_join {directory : String} (hdirectory : directory ≠ "") :
    ∃ names ending, (ending = [] ∨ ending = [""]) ∧ namesOf directory = names ++ ending ∧
      ∀ name, '/' ∉ name.toList → namesOf (Path.join directory name) = names ++ [name] := by
  have hempty : directory.isEmpty = false := by simpa using hdirectory
  have hjoin : ∀ name, '/' ∉ name.toList →
      Path.join directory name = Path.front directory ++ name := fun name hname =>
    Path.join_eq directory (Path.isAbsolute_of_notMem hname)
  by_cases hslash : directory.toList.getLast? = some '/'
  · obtain ⟨body, hbody⟩ : ∃ body, directory.toList = body ++ ['/'] :=
      List.getLast?_eq_some_iff.1 hslash
    have hfront : Path.front directory = String.ofList body ++ "/" := by
      rw [Path.front, hempty, hslash, ← String.toList_inj]
      simp [hbody]
    refine ⟨namesOf (String.ofList body), [""], .inr rfl, ?_, fun name hname => ?_⟩
    · rw [← namesOf_of_notMem (by decide), ← namesOf_append, ← hfront, String.append_empty,
        Path.front, hempty, hslash]
      rfl
    · rw [hjoin name hname, hfront, namesOf_append, namesOf_of_notMem hname]
  · have hfront : Path.front directory = directory ++ "/" := by
      simp [Path.front, hempty, hslash]
    refine ⟨namesOf directory, [], .inl rfl, (List.append_nil _).symm, fun name hname => ?_⟩
    rw [hjoin name hname, hfront, namesOf_append, namesOf_of_notMem hname]

/-- The names in a path without those that are passed over when it is followed. -/
def stepsOf (path : String) : List String := (namesOf path).filter (· ∉ ["", "."])

/-- Two paths that nobody takes for one: they are different also when surplus slashes and dots are
left out, and there is no directory tree in which both lead to the same place. -/
structure Separate (path path' : String) : Prop where
  steps : stepsOf path ≠ stepsOf path'
  places : ∀ (t : FileTree) (current place : List String), t.resolve current path = .ok place →
    t.resolve current path' ≠ .ok place

theorem Separate.ne {path path' : String} (h : Separate path path') : path ≠ path' :=
  fun heq => h.steps (congrArg stepsOf heq)

/-- The path leads to a directory at the place. -/
structure IsOpen (t : FileTree) (current : List String) (directory : String)
    (place : List String) : Prop where
  resolves : t.resolve current directory = .ok place
  isDirectory : t.lookup place = some .directory

theorem isOpen_root (t : FileTree) (current : List String) : t.IsOpen current "/" [] := ⟨rfl, rfl⟩

theorem lookup_default (name : String) : (default : FileTree).lookup ([] ++ [name]) = none := rfl

theorem IsOpen.mono {directory : String} (ho : t.IsOpen current directory place)
    (hkeep : t.KeepsDirectories t') : t'.IsOpen current directory place :=
  ⟨resolve_mono hkeep ho.resolves, hkeep place ho.isDirectory⟩

section Entry

variable {directory name : String}

theorem IsOpen.ne_empty (ho : t.IsOpen current directory place) : directory ≠ "" := by
  rintro rfl
  have h := ho.resolves
  rw [show t.resolve current "" = .error .notFound from rfl] at h
  cases h

theorem startOf_join (hdirectory : directory ≠ "") (hname : '/' ∉ name.toList) :
    startOf current (Path.join directory name) = startOf current directory := by
  obtain ⟨c, cs, hchars⟩ : ∃ c cs, directory.toList = c :: cs :=
    List.exists_cons_of_ne_nil (by simpa using hdirectory)
  have hrelative := Path.isAbsolute_of_notMem hname
  have hempty : directory.isEmpty = false := by simpa using hdirectory
  have hstart : Path.isAbsolute (Path.join directory name) = Path.isAbsolute directory := by
    rw [Path.join, hrelative, hempty]
    split
    · next h => simp at h
    · split <;> simp [Path.isAbsolute, hchars]
  rw [startOf, startOf, hstart]

/-- In an open directory the path of an entry leads to the entry's place, if it is a path. -/
theorem IsOpen.resolve_join (ho : t.IsOpen current directory place) (hname : IsName name) :
    t.resolve current (Path.join directory name) =
      (checkPath (Path.join directory name)).map fun _ => place ++ [name] := by
  obtain ⟨_, -, hwalk⟩ := Except.bind_eq_ok_iff.1 ho.resolves
  obtain ⟨names, ending, hending, hdirectory, hjoin⟩ := exists_namesOf_join ho.ne_empty
  rw [hdirectory] at hwalk
  have hplace := walk_append_name hname hending hwalk ho.isDirectory
  rw [resolve, startOf_join ho.ne_empty hname.slash, hjoin name hname.slash, hplace]
  rfl

/-- A file may be made at the path of an entry. -/
theorem IsOpen.filePlace_join (ho : t.IsOpen current directory place) (hname : IsName name) :
    t.filePlace current (Path.join directory name) =
      t.resolve current (Path.join directory name) := by
  obtain ⟨names, ending, -, -, hjoin⟩ := exists_namesOf_join ho.ne_empty
  have hbare : bareNames (Path.join directory name) = namesOf (Path.join directory name) := by
    rw [bareNames, hjoin name hname.slash, List.reverse_append]
    simp [hname.ne_empty]
  simp [filePlace, resolve, hbare]

theorem IsOpen.resolve_of_checkPath (ho : t.IsOpen current directory place) (hname : IsName name)
    (hpath : checkPath (Path.join directory name) = .ok ()) :
    t.resolve current (Path.join directory name) = .ok (place ++ [name]) := by
  rw [ho.resolve_join hname, hpath]
  rfl

theorem IsOpen.eq_of_resolve (ho : t.IsOpen current directory place) (hname : IsName name)
    (h : t.resolve current (Path.join directory name) = .ok target) :
    target = place ++ [name] := by
  rw [ho.resolve_join hname] at h
  obtain ⟨_, -, rfl⟩ := Except.map_eq_ok_iff.1 h
  rfl

end Entry

/-! ## Operations at a place -/

section Operations

variable {path newPath : String}

theorem stat_of_resolve (h : t.resolve current path = .ok place) :
    t.stat current path = match t.lookup place with
      | some content => .ok content
      | none => .error .notFound := by
  rw [stat, h]
  rfl

theorem IsOpen.stat_directory {directory : String} (ho : t.IsOpen current directory place) :
    t.stat current directory = .ok .directory := by
  rw [stat_of_resolve ho.resolves, ho.isDirectory]

theorem IsOpen.lookup_of_stat {directory name : String} (ho : t.IsOpen current directory place)
    (hname : IsName name) (h : t.stat current (Path.join directory name) = .ok content) :
    t.lookup (place ++ [name]) = some content := by
  obtain ⟨p, hp, -⟩ := Except.bind_eq_ok_iff.1 h
  rw [stat_of_resolve hp, ho.eq_of_resolve hname hp] at h
  cases hfound : t.lookup (place ++ [name]) with
  | none =>
      rw [hfound] at h
      cases h
  | some found =>
      rw [hfound] at h
      rw [Except.ok.inj h]

theorem read_of_resolve (h : t.resolve current path = .ok place) :
    t.read current path = match t.lookup place with
      | some .directory => .error .isADirectory
      | some content => .ok content.bytes
      | none => .error .notFound := by
  rw [read, stat_of_resolve h]
  cases t.lookup place with
  | none => rfl
  | some content => cases content <;> rfl

/-- What is read at an entry's path is what is there, if it is a path. -/
theorem IsOpen.read_join {directory name : String} (ho : t.IsOpen current directory place)
    (hname : IsName name) :
    t.read current (Path.join directory name) =
      (checkPath (Path.join directory name)).bind fun _ =>
        match t.lookup (place ++ [name]) with
        | some .directory => .error .isADirectory
        | some content => .ok content.bytes
        | none => .error .notFound := by
  have hresolve := ho.resolve_join hname
  cases hpath : checkPath (Path.join directory name) with
  | error cause =>
      rw [hpath] at hresolve
      rw [read, stat, hresolve]
      rfl
  | ok _ =>
      rw [hpath] at hresolve
      rw [read_of_resolve hresolve]
      rfl

theorem create_of_filePlace (h : t.filePlace current path = .ok place) :
    t.create current path = match t.lookup place with
      | some .directory => .error .isADirectory
      | some content => .ok (t.put place content.emptied)
      | none => .ok (t.put place .emptyFile) := by
  rw [create, h]
  rfl

theorem append_of_resolve (h : t.resolve current path = .ok place) (bytes : ByteArray) :
    t.append current path bytes = match t.lookup place with
      | some content => (content.append bytes).map (t.put place)
      | none => .error .notFound := by
  have hunfold : t.append current path bytes = match t.lookup place with
      | some content => content.append bytes >>= fun longer => pure (t.put place longer)
      | none => throw .notFound := by
    rw [append, h]
    rfl
  rw [hunfold]
  cases t.lookup place with
  | none => rfl
  | some content => cases content.append bytes <;> rfl

theorem rename_of_resolve (h : t.resolve current path = .ok place)
    (hnew : t.resolve current newPath = .ok target) :
    t.rename current path newPath = match t.lookup place, t.lookup target with
      | none, _ => .error .notFound
      | some .directory, _ => .error .permissionDenied
      | some _, some .directory => .error .isADirectory
      | some file, _ => .ok ((t.erase place).put target file) := by
  rw [rename, h, hnew]
  rfl

theorem remove_of_resolve (h : t.resolve current path = .ok place) :
    t.remove current path = match t.lookup place with
      | some .directory => .error .isADirectory
      | some _ => .ok (t.erase place)
      | none => .error .notFound := by
  rw [remove, h]
  rfl

end Operations

/-! ## Listing a directory -/

/-- The name of an entry that is in a directory. -/
def nameIn? (place : List String) (e : Entry) : Option String :=
  if place.isPrefixOf e.path then
    match e.path.drop place.length with
    | [name] => some name
    | _ => none
  else none

theorem nameIn?_eq_some_iff {e : Entry} {name : String} :
    nameIn? place e = some name ↔ e.path = place ++ [name] := by
  rw [nameIn?]
  constructor
  · intro h
    split at h
    · next hprefix =>
        obtain ⟨rest, hrest⟩ := List.isPrefixOf_iff_prefix.1 hprefix
        rw [← hrest, List.drop_left] at h
        split at h
        · rw [← hrest, Option.some.inj h]
        · cases h
    · cases h
  · intro h
    rw [h, if_pos (List.isPrefixOf_iff_prefix.2 (List.prefix_append place [name])),
      List.drop_left]

theorem names_below (t : FileTree) (place : List String) :
    ((t.below place).filterMap fun e => match e.path with
      | [name] => some name
      | _ => none) = t.entries.entries.filterMap (nameIn? place) := by
  rw [below, List.filterMap_filterMap]
  refine List.filterMap_congr fun e _ => ?_
  rw [nameIn?]
  cases hprefix : place.isPrefixOf e.path with
  | false => simp
  | true =>
      by_cases hlength : place.length < e.path.length
      · simp [hlength]
      · have hdrop : e.path.drop place.length = [] := List.drop_eq_nil_of_le (Nat.not_lt.1 hlength)
        simp [hlength, hdrop]

/-- A directory is listed with each name in it once. -/
theorem IsOpen.list_eq_ok {directory : String} (ho : t.IsOpen current directory place) :
    ∃ names, t.list current directory = .ok names ∧ names.Nodup ∧
      ∀ name, name ∈ names ↔ t.lookup (place ++ [name]) ≠ none := by
  refine ⟨(t.entries.entries.filterMap (nameIn? place)).reverse, ?_, ?_, fun name => ?_⟩
  · rw [list, ho.resolves]
    show (match t.lookup place with
      | some .directory => _
      | some _ => _
      | none => _ : Except Cause (List String)) = _
    rw [ho.isDirectory, ← names_below]
    rfl
  · -- entries with the same name would be at the same path
    refine List.nodup_reverse.2 (List.pairwise_filterMap.2 (t.entries.ascending.imp ?_))
    rintro a b hlt name ha other hb rfl
    rw [nameIn?_eq_some_iff.1 ha, nameIn?_eq_some_iff.1 hb] at hlt
    exact Table.ne_of_compare_lt hlt rfl
  · rw [List.mem_reverse, List.mem_filterMap, lookup_of_ne_nil t (by simp)]
    simp only [nameIn?_eq_some_iff, ne_eq, Option.map_eq_none_iff]
    rw [← ne_eq, Option.ne_none_iff_exists']
    simp only [Table.find?_eq_some_iff]

/-! ## Making a directory that is there -/

/-- Slashes at the end lead nowhere else. -/
theorem walk_of_walk_append {names ending : List String} (hending : ∀ e ∈ ending, e = "")
    (h : t.walk place (names ++ ending) = .ok target) : t.walk place names = .ok target := by
  obtain ⟨middle, hnames, hrest⟩ := walk_append h
  rw [hnames]
  clear h
  induction ending with
  | nil => exact hrest
  | cons e ending ih =>
      obtain rfl := hending e List.mem_cons_self
      exact ih (fun e he => hending e (List.mem_cons_of_mem _ he)) hrest

theorem namesOf_eq_bareNames_append (path : String) :
    ∃ ending, (∀ e ∈ ending, e = "") ∧ namesOf path = bareNames path ++ ending := by
  refine ⟨((namesOf path).reverse.takeWhile (· == "")).reverse, fun e he => ?_, ?_⟩
  · have hempty := List.mem_takeWhile_imp (List.mem_reverse.1 he)
    simpa using hempty
  · rw [bareNames, ← List.reverse_append, List.takeWhile_append_dropWhile, List.reverse_reverse]

/-- A directory that is there is made without any change. -/
theorem IsOpen.createDirectories_eq {directory : String} (ho : t.IsOpen current directory place) :
    t.createDirectories current directory = (.ok (), t) := by
  obtain ⟨_, hcheck, hwalk⟩ := Except.bind_eq_ok_iff.1 ho.resolves
  obtain ⟨ending, hending, hnames⟩ := namesOf_eq_bareNames_append directory
  rw [hnames] at hwalk
  have hbare := walk_of_walk_append hending hwalk
  have hcreate : t.createDirectory current directory = .error .alreadyExists := by
    rw [createDirectory, hcheck, hbare]
    show (match t.lookup place with
      | some _ => _
      | none => _ : Except Cause FileTree) = _
    rw [ho.isDirectory]
    rfl
  have hensure : t.ensureDirectory current directory = .ok t := by
    have hthere : t.isDirectory current directory = true := by
      rw [FileTree.isDirectory, ho.stat_directory]
    rw [ensureDirectory, hcreate]
    exact if_pos hthere
  have hempty : directory.isEmpty = false := by simpa using ho.ne_empty
  rw [createDirectories, createDirectoriesFrom, hempty, hensure]
  rfl

/-! ## Making a file where nothing is -/

/-- Slashes at the end are followed from where the names before them lead, unless the last of
these is the name of a file. -/
theorem walk_append_of_walk {names ending : List String} (hending : ∀ e ∈ ending, e = "")
    (hlast : names.getLast?.any isFileName = false) (h : t.walk place names = .ok target) :
    t.walk place (names ++ ending) = .ok target := by
  induction names generalizing place with
  | nil =>
      obtain rfl : place = target := Except.ok.inj h
      clear h hlast
      induction ending with
      | nil => rfl
      | cons e ending ih =>
          obtain rfl := hending e List.mem_cons_self
          exact ih fun e he => hending e (List.mem_cons_of_mem _ he)
  | cons name names ih =>
      have hnames : names.getLast?.any isFileName = false := by
        cases names with
        | nil => rfl
        | cons next names => rwa [List.getLast?_cons_cons] at hlast
      rw [List.cons_append, walk_cons_eq_ok_iff]
      rcases walk_cons_eq_ok_iff.1 h with ⟨hidle, h⟩ | ⟨hdots, h⟩ | ⟨hstep, rfl, -⟩ |
        ⟨hstep, hne, hdirectory, h⟩
      · exact .inl ⟨hidle, ih hnames h⟩
      · exact .inr (.inl ⟨hdots, ih hnames h⟩)
      · -- a name that leads on is the name of a file
        have hfile : isFileName name = true := by
          simp [isFileName, hstep.ne_dot, hstep.ne_dots]
        exact absurd hfile (by simpa using hlast)
      · have hmore : names ++ ending ≠ [] := fun hnil => hne (List.append_eq_nil_iff.1 hnil).1
        exact .inr (.inr (.inr ⟨hstep, hmore, hdirectory, ih hnames h⟩))

/-- The place of a file that may be made is where its path leads. -/
theorem resolve_of_filePlace {path : String} (h : t.filePlace current path = .ok place) :
    t.resolve current path = .ok place := by
  obtain ⟨_, hcheck, hplace⟩ := Except.bind_eq_ok_iff.1 h
  obtain ⟨ending, hending, hnames⟩ := namesOf_eq_bareNames_append path
  refine Except.bind_eq_ok_iff.2 ⟨(), hcheck, ?_⟩
  dsimp only at hplace
  split at hplace
  · obtain ⟨_, -, hthrow⟩ := Except.bind_eq_ok_iff.1 hplace
    cases hthrow
  · next hslash =>
      rw [hnames]
      cases ending with
      | nil => rwa [List.append_nil]
      | cons e ending =>
          have hlonger : (bareNames path).length < (namesOf path).length := by
            rw [hnames, List.length_append, List.length_cons]
            omega
          refine walk_append_of_walk hending ?_ hplace
          simpa [hlonger] using hslash

theorem createNew_eq_ok_iff {path : String} : t.createNew current path = .ok t' ↔
    ∃ place, t.filePlace current path = .ok place ∧ t.lookup place = none ∧
      t' = t.put place .emptyFile := by
  rw [createNew, Except.bind_eq_ok_iff]
  refine exists_congr fun place => and_congr_right fun _ => ?_
  cases t.lookup place with
  | none =>
      show Except.ok (t.put place .emptyFile) = .ok t' ↔ _
      simp [eq_comm]
  | some content =>
      show (Except.error Cause.alreadyExists : Except Cause FileTree) = .ok t' ↔ _
      simp

/-- Why a file cannot have a length, if it cannot. -/
def lengthFault? (length : Nat) : Option Cause :=
  if lengthLimit ≤ length then some .lengthOutOfRange
  else if longest < length then some .fileTooLarge
  else none

theorem lengthFault?_eq_none_iff {length : Nat} :
    lengthFault? length = none ↔ length ≤ longest := by
  have hlimit : longest < lengthLimit := by decide
  rw [lengthFault?]
  split
  · next h =>
      simp only [reduceCtorEq, false_iff]
      omega
  · split
    · next h => simpa using h
    · next h => simpa using h

/-- A file that has been made is at its path. -/
theorem resolve_of_createNew {path : String} (h : t.createNew current path = .ok t') :
    ∃ place, t'.resolve current path = .ok place ∧ t'.lookup place = some .emptyFile := by
  obtain ⟨place, hplace, habsent, rfl⟩ := createNew_eq_ok_iff.1 h
  have hne : place ≠ [] := by
    rintro rfl
    cases habsent
  have hkeep : t.KeepsDirectories (t.put place .emptyFile) := by
    refine .of_lookup_ne fun q hq => ?_
    rw [lookup_put t _ hne] at hq
    split at hq
    · next hsame => simp [← hsame, habsent]
    · exact absurd rfl hq
  refine ⟨place, resolve_mono hkeep (resolve_of_filePlace hplace), ?_⟩
  rw [lookup_put t _ hne, if_pos rfl]

theorem stat_of_createNew {path : String} (h : t.createNew current path = .ok t') :
    t'.stat current path = .ok .emptyFile := by
  obtain ⟨place, hresolve, hthere⟩ := resolve_of_createNew h
  rw [stat_of_resolve hresolve, hthere]

/-- A file that has been made gets any length that a file can have. -/
theorem setLength_of_createNew {path : String} (h : t.createNew current path = .ok t')
    (length : Nat) : ∃ place, t'.setLength current path length =
      match lengthFault? length with
      | some cause => .error cause
      | none => .ok (t'.put place (Content.emptyFile.resize length)) := by
  obtain ⟨place, hresolve, hthere⟩ := resolve_of_createNew h
  refine ⟨place, ?_⟩
  rw [setLength, hresolve]
  show (match t'.lookup place with
    | some .directory => _
    | some _ => _
    | none => _ : Except Cause FileTree) = _
  rw [hthere, lengthFault?]
  show (if lengthLimit ≤ length then _ else if longest < length then _ else _ :
    Except Cause FileTree) = _
  split
  · rfl
  · split <;> rfl

/-! ## Names that are passed over -/

theorem walk_append_of_idle {names rest : List String} (hidle : ∀ name ∈ names, name ∈ ["", "."]) :
    t.walk place (names ++ rest) = t.walk place rest := by
  induction names with
  | nil => rfl
  | cons name names ih =>
      obtain ⟨hname, hnames⟩ := List.forall_mem_cons.1 hidle
      have hpassed : name = "" ∨ name = "." := by simpa using hname
      rw [List.cons_append, walk, if_pos hpassed, ih hnames]

theorem namesOf_of_hasComponents {path : String} {cs : List (List Char)}
    (h : Path.HasComponents path cs) : namesOf path = "" :: cs.map String.ofList := by
  have hsplit : ([] ++ '/' :: ['/'].intercalate cs).splitOn '/' = [[]] ++ cs := by
    rw [List.splitOn_append_cons_self, h.split]
    rfl
  rw [namesOf, h.text]
  exact congrArg (List.map String.ofList) hsplit

theorem checkPath_eq_ok_iff {path : String} : checkPath path = .ok () ↔
    path ≠ "" ∧ '\x00' ∉ path.toList ∧ path.utf8ByteSize < pathLimit := by
  rw [checkPath, Except.ite_error_eq_ok_iff, Except.ite_error_eq_ok_iff,
    Except.ite_error_eq_ok_iff]
  simp

/-- What a path ends in is a path, too. -/
theorem checkPath_of_append {start path : String} (hpath : path ≠ "")
    (h : checkPath (start ++ path) = .ok ()) : checkPath path = .ok () := by
  rw [checkPath_eq_ok_iff, String.toList_append, String.utf8ByteSize_append] at h
  refine checkPath_eq_ok_iff.2 ⟨hpath, fun hmem => h.2.1 (List.mem_append_right _ hmem), ?_⟩
  have hsize := h.2.2
  omega

theorem ofList_mem_idle {component : List Char} (h : Path.isIdle component = true) :
    String.ofList component ∈ ["", "."] := by
  rw [Path.isIdle, Bool.or_eq_true, beq_iff_eq, beq_iff_eq] at h
  rcases h with rfl | rfl
  · exact List.mem_cons_self
  · exact List.mem_cons_of_mem _ List.mem_cons_self

section Idle

variable {path path' : String} {cs : List (List Char)} {c : List Char}

/-- The names in a path, and those that are left without the idle ones at its start. -/
theorem exists_namesOf_of_dropWhile (h : Path.HasComponents path (cs ++ [c]))
    (h' : Path.HasComponents path' (cs.dropWhile Path.isIdle ++ [c])) :
    ∃ idle names, (∀ name ∈ idle, name ∈ ["", "."]) ∧ namesOf path = idle ++ names ∧
      namesOf path' = [""] ++ names := by
  refine ⟨"" :: (cs.takeWhile Path.isIdle).map String.ofList,
    (cs.dropWhile Path.isIdle ++ [c]).map String.ofList, ?_, ?_, namesOf_of_hasComponents h'⟩
  · intro name hname
    rcases List.mem_cons.1 hname with rfl | hname
    · exact List.mem_cons_self
    · obtain ⟨component, hcomponent, rfl⟩ := List.mem_map.1 hname
      exact ofList_mem_idle (List.mem_takeWhile_imp hcomponent)
  · rw [namesOf_of_hasComponents h, List.cons_append, ← List.map_append, ← List.append_assoc,
      List.takeWhile_append_dropWhile]

/-- Surplus slashes and dots at the start of a path lead nowhere. -/
theorem stepsOf_of_dropWhile (h : Path.HasComponents path (cs ++ [c]))
    (h' : Path.HasComponents path' (cs.dropWhile Path.isIdle ++ [c])) :
    stepsOf path' = stepsOf path := by
  obtain ⟨idle, names, hidle, hnames, hnames'⟩ := exists_namesOf_of_dropWhile h h'
  have hnone : idle.filter (· ∉ ["", "."]) = [] := by
    rw [List.filter_eq_nil_iff]
    exact fun name hname => by simpa [or_iff_not_imp_left] using hidle name hname
  rw [stepsOf, stepsOf, hnames, hnames', List.filter_append, List.filter_append, hnone]
  rfl

theorem resolve_of_dropWhile {start : String} (hpath : path = start ++ path')
    (h : Path.HasComponents path (cs ++ [c]))
    (h' : Path.HasComponents path' (cs.dropWhile Path.isIdle ++ [c]))
    (hresolve : t.resolve current path = .ok place) : t.resolve current path' = .ok place := by
  obtain ⟨_, hcheck, hwalk⟩ := Except.bind_eq_ok_iff.1 hresolve
  obtain ⟨idle, names, hidle, hnames, hnames'⟩ := exists_namesOf_of_dropWhile h h'
  have habsolute : ∀ {path cs}, Path.HasComponents path cs → startOf current path = [] := by
    intro path cs h
    rw [startOf, Path.isAbsolute, h.text]
    rfl
  have hne : path' ≠ "" := by
    rintro rfl
    cases h'.text
  refine Except.bind_eq_ok_iff.2 ⟨(), checkPath_of_append hne (hpath ▸ hcheck), ?_⟩
  rw [habsolute h, hnames, walk_append_of_idle hidle] at hwalk
  rw [habsolute h', hnames', walk_append_of_idle (by simp), hwalk]

end Idle

end Guestkeeper.Host.FileTree
