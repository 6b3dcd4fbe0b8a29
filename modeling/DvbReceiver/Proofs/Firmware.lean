import DvbReceiver.Firmware
import DvbReceiver.Proofs.Files

set_option autoImplicit false

namespace DvbReceiver.Firmware

open FileSystem

theorem hasDoubleDot_of_infix {text : List Char} (inside : ['.', '.'] <:+: text) :
    hasDoubleDot text = true := by
  obtain ⟨before, after, rfl⟩ := inside
  induction before with
  | nil => rfl
  | cons c before ih =>
    rw [List.cons_append, List.cons_append]
    -- Two dots may start at `c`, too; else the search goes on behind it.
    unfold hasDoubleDot
    split
    next => rfl
    next same =>
      cases same
      exact ih
    next impossible => cases impossible

theorem ne_empty_of_isName {name : String} (named : isName name = true) : name ≠ "" := by
  rintro rfl
  cases named

theorem downwards_of_isName {name : String} (named : isName name = true) :
    ∀ part ∈ Path.components name, part ≠ ".." := by
  rintro part present rfl
  obtain ⟨piece, there, same⟩ := List.mem_map.1 present
  have dots : piece = ['.', '.'] := by
    rw [← String.toList_inj] at same
    simpa using same
  have double := hasDoubleDot_of_infix (dots ▸ Text.infix_of_mem_splitOn there)
  simp [isName, double] at named

section

variable {fs fs' : FileSystem} {directories : List String} {name : String}

theorem search_nil (fs : FileSystem) (name : String) : search fs name [] = none := by rfl

theorem search_cons (fs : FileSystem) (name first : String) (rest : List String) :
    search fs name (first :: rest) =
      match fs.read (Path.join first name) with
      | .ok [] => some (.error (.firmwareEmpty name (Path.join first name)))
      | .ok image => some (.ok image)
      | .error .notFound => search fs name rest
      | .error problem => some (.error (.firmwareFile name (Path.join first name) problem)) := by
  rfl

theorem search_cons_eq_ok_iff (first : String) (rest : List String) (bytes : Bytes) :
    search fs name (first :: rest) = some (.ok bytes) ↔
      (fs.read (Path.join first name) = .ok bytes ∧ bytes ≠ []) ∨
        fs.read (Path.join first name) = .error .notFound ∧
          search fs name rest = some (.ok bytes) := by
  rw [search_cons]
  cases read : fs.read (Path.join first name) with
  | ok image =>
    cases image with
    | nil => simp +contextual [eq_comm]
    | cons byte image => simp +contextual [eq_comm]
  | error problem => cases problem <;> simp

theorem search_eq_ok_iff (bytes : Bytes) :
    search fs name directories = some (.ok bytes) ↔
      ∃ before directory after, directories = before ++ directory :: after ∧
        (fs.read (Path.join directory name) = .ok bytes ∧ bytes ≠ []) ∧
        ∀ earlier ∈ before, fs.read (Path.join earlier name) = .error .notFound := by
  induction directories with
  | nil => simp [search_nil]
  | cons first rest ih =>
    rw [search_cons_eq_ok_iff, ih]
    constructor
    next =>
      rintro (here | ⟨missing, before, directory, after, rfl, there, earlier⟩)
      next => exact ⟨[], first, rest, rfl, here, by simp⟩
      next =>
        exact ⟨first :: before, directory, after, rfl, there,
          List.forall_mem_cons.2 ⟨missing, earlier⟩⟩
    next =>
      rintro ⟨before, directory, after, parts, there, earlier⟩
      cases before with
      | nil =>
        cases parts
        exact .inl there
      | cons other before =>
        cases parts
        obtain ⟨missing, earlier⟩ := List.forall_mem_cons.1 earlier
        exact .inr ⟨missing, before, directory, after, rfl, there, earlier⟩

theorem search_congr
    (same : ∀ directory ∈ directories,
      fs'.read (Path.join directory name) = fs.read (Path.join directory name)) :
    search fs' name directories = search fs name directories := by
  induction directories with
  | nil => rfl
  | cons first rest ih =>
    obtain ⟨here, further⟩ := List.forall_mem_cons.1 same
    rw [search_cons, search_cons, here, ih further]

theorem load_eq_ok_iff (bytes : Bytes) :
    load fs directories name = .ok bytes ↔
      isName name = true ∧ ∃ before directory after, directories = before ++ directory :: after ∧
        (fs.read (Path.join directory name) = .ok bytes ∧ bytes ≠ []) ∧
        ∀ earlier ∈ before, fs.read (Path.join earlier name) = .error .notFound := by
  rw [← search_eq_ok_iff]
  unfold load
  by_cases named : isName name = true
  next => cases search fs name directories <;> simp [named]
  next => simp [named]

def placeOf (home : Location) (name : String) : Location :=
  home ++ Path.steps (Path.components name)

/-- A name is looked for below the directories only, one after the other. -/
structure Confined (fs : FileSystem) (directories : List String) (name : String) : Prop where
  found : ∀ bytes, load fs directories name = .ok bytes → bytes ≠ [] ∧
    ∃ before directory after home, directories = before ++ directory :: after ∧
      fs.home? directory = .ok home ∧ fs.entry? home = some .directory ∧
      fs.entry? (placeOf home name) = some (.file bytes) ∧
      ∀ earlier ∈ before, fs.home? earlier = .error .notFound ∨
        ∃ other, fs.home? earlier = .ok other ∧ fs.entry? (placeOf other name) = none
  looked : isName name = true → ∀ directory ∈ directories, ∀ location entry,
    fs.find (Path.join directory name) = .ok (location, entry) →
      ∃ home, fs.home? directory = .ok home ∧ location = placeOf home name
  unread : ∀ fs', Agree fs fs' directories → load fs' directories name = load fs directories name

theorem sought_of_isName (fs : FileSystem) (directory : String) (named : isName name = true)
    (relative : Path.isAbsolute name = false) :
    Sought fs directory name (fs.find (Path.join directory name)) :=
  fs.sought_find directory (ne_empty_of_isName named) relative (downwards_of_isName named)

theorem read_join_ok (named : isName name = true) (relative : Path.isAbsolute name = false)
    {directory : String} {bytes : Bytes} (read : fs.read (Path.join directory name) = .ok bytes) :
    ∃ home, fs.home? directory = .ok home ∧ fs.entry? home = some .directory ∧
      fs.entry? (placeOf home name) = some (.file bytes) := by
  have sought := sought_of_isName fs directory named relative
  unfold FileSystem.read at read
  generalize fs.find (Path.join directory name) = result at read sought
  cases sought with
  | inside home result homed descended =>
    cases descended with
    | found entry directory there =>
      cases entry with
      | directory => cases read
      | file content =>
        cases read
        exact ⟨home, homed, directory, there⟩
    | absent => cases read
    | refused => cases read
  | homeless => cases read
  | refused => cases read

theorem read_join_notFound (named : isName name = true) (relative : Path.isAbsolute name = false)
    {directory : String} (read : fs.read (Path.join directory name) = .error .notFound) :
    fs.home? directory = .error .notFound ∨
      ∃ home, fs.home? directory = .ok home ∧ fs.entry? (placeOf home name) = none := by
  have sought := sought_of_isName fs directory named relative
  unfold FileSystem.read at read
  generalize fs.find (Path.join directory name) = result at read sought
  cases sought with
  | inside home result homed descended =>
    cases descended with
    | found entry => cases entry <;> cases read
    | absent absent => exact .inr ⟨home, homed, absent⟩
    | refused problem other =>
      cases read
      exact absurd rfl other
  | homeless homeless => exact .inl homeless
  | refused problem other =>
    cases read
    exact absurd rfl other

/-- The names that are not absolute never lead out of the directories. -/
theorem confined_load (fs : FileSystem) (directories : List String) {name : String}
    (relative : Path.isAbsolute name = false) : Confined fs directories name where
  found bytes loaded := by
    obtain ⟨named, before, directory, after, parts, ⟨read, nonempty⟩, earlier⟩ :=
      (load_eq_ok_iff bytes).1 loaded
    obtain ⟨home, homed, inside, there⟩ := read_join_ok named relative read
    exact ⟨nonempty, before, directory, after, home, parts, homed, inside, there,
      fun other listed => read_join_notFound named relative (earlier other listed)⟩
  looked named directory listed location entry found := by
    have sought := sought_of_isName fs directory named relative
    rw [found] at sought
    cases sought with
    | inside home result homed descended =>
      cases descended
      exact ⟨home, homed, rfl⟩
  unread fs' agree := by
    by_cases named : isName name = true
    next =>
      have same := search_congr fun directory listed =>
        agree.read_join listed (ne_empty_of_isName named) relative (downwards_of_isName named)
      simp [load, named, same]
    next => simp [load, named]

theorem confined_load_second :
    let fs : FileSystem :=
      ⟨[(["lib", "fw1", "a.fw"], .file [1]), (["work", "fw2", "sub", "c.fw"], .file [3])], ["work"]⟩
    Path.isAbsolute "sub/c.fw" = false ∧ load fs ["/lib/fw1", "fw2"] "sub/c.fw" = .ok [3] ∧
      Confined fs ["/lib/fw1", "fw2"] "sub/c.fw" := by
  intro fs
  have relative : Path.isAbsolute "sub/c.fw" = false := by rfl
  exact ⟨relative, by rfl, confined_load fs _ relative⟩

/-- An absolute name stands for the one file of that path, whatever the directories. -/
theorem load_absolute (absolute : Path.isAbsolute name = true) (nonempty : directories ≠ [])
    (bytes : Bytes) :
    load fs directories name = .ok bytes ↔
      isName name = true ∧ fs.read name = .ok bytes ∧ bytes ≠ [] := by
  have alone (directory : String) : Path.join directory name = name := by
    simp [Path.join, absolute]
  obtain ⟨first, rest, rfl⟩ := List.exists_cons_of_ne_nil nonempty
  simp only [load_eq_ok_iff, alone]
  refine and_congr_right fun _ => ⟨?_, fun there => ⟨[], first, rest, rfl, there, by simp⟩⟩
  rintro ⟨-, -, -, -, there, -⟩
  exact there

/-- Neither a device nor somebody's key lies in a directory that is searched. -/
theorem unconfined_absolute :
    let device : FileSystem := ⟨[(["dev", "null"], .file [])], ["work"]⟩
    let key : FileSystem :=
      ⟨[(["etc", "key"], .file [0x4b]), (["work", "fw1"], .directory)], ["work"]⟩
    (load device ["fw1"] "/dev/null" = .error (.firmwareEmpty "/dev/null" "/dev/null") ∧
        ¬Confined device ["fw1"] "/dev/null") ∧
      load key ["fw1"] "/etc/key" = .ok [0x4b] ∧ ¬Confined key ["fw1"] "/etc/key" := by
  intro device key
  have read : load key ["fw1"] "/etc/key" = .ok [0x4b] := by rfl
  refine ⟨⟨by rfl, fun confined => ?_⟩, read, fun confined => ?_⟩
  next =>
    -- There is no such directory, and still something is found.
    obtain ⟨home, homed, -⟩ :=
      confined.looked (by rfl) "fw1" List.mem_cons_self ["dev", "null"] (.file []) (by rfl)
    have absent : device.home? "fw1" = .error .notFound := by rfl
    rw [absent] at homed
    cases homed
  next =>
    obtain ⟨-, before, directory, after, home, parts, homed, -, there, -⟩ :=
      confined.found [0x4b] read
    have listed : directory ∈ ["fw1"] := by simp [parts]
    obtain rfl := List.mem_singleton.1 listed
    have inside : key.home? "fw1" = .ok ["work", "fw1"] := by rfl
    have absent : key.entry? (placeOf ["work", "fw1"] "/etc/key") = none := by rfl
    rw [inside] at homed
    cases homed
    rw [absent] at there
    cases there

end

end DvbReceiver.Firmware
