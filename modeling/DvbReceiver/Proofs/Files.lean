import DvbReceiver.Files.System
import Mathlib.Data.List.Infix

set_option autoImplicit false

namespace DvbReceiver

namespace Text

theorem mem_intersperse {pieces : List (List Char)} {piece : List Char} (gap : List Char)
    (present : piece ∈ pieces) : piece ∈ pieces.intersperse gap := by
  induction pieces with
  | nil => cases present
  | cons first rest ih =>
    cases rest with
    | nil => exact present
    | cons second rest =>
      obtain rfl | later := List.mem_cons.1 present
      next => exact List.mem_cons_self
      next => exact List.mem_cons_of_mem first (List.mem_cons_of_mem gap (ih later))

theorem infix_of_mem_splitOn {separator : Char} {text piece : List Char}
    (present : piece ∈ text.splitOn separator) : piece <:+: text := by
  have within := List.infix_of_mem_flatten (mem_intersperse [separator] present)
  rwa [← List.intercalate, List.intercalate_splitOn] at within

end Text

namespace Path

theorem components_ne_nil (path : String) : components path ≠ [] := by
  simp [components, List.splitOn_ne_nil]

theorem components_slash (first second : String) :
    components (first ++ "/" ++ second) = components first ++ components second := by
  have slash : (first ++ "/" ++ second).toList = first.toList ++ '/' :: second.toList := by
    simp
  have parted := List.splitOnP_append_cons (p := (· == '/')) first.toList second.toList
    (beq_self_eq_true '/')
  rw [components, slash, List.splitOn, parted, List.map_append]
  rfl

def steps (names : List String) : List String :=
  names.filter fun name => name ≠ "" ∧ name ≠ "."

theorem steps_down {name : String} (moves : ¬(name = "" ∨ name = ".")) (rest : List String) :
    steps (name :: rest) = name :: steps rest := by
  simp only [not_or] at moves
  simp [steps, moves]

theorem steps_still {name : String} (still : name = "" ∨ name = ".") (rest : List String) :
    steps (name :: rest) = steps rest := by
  cases still with
  | inl empty => simp [steps, empty]
  | inr dot => simp [steps, dot]

theorem isAbsolute_append {directory : String} (nonempty : directory ≠ "") (name : String) :
    isAbsolute (directory ++ name) = isAbsolute directory := by
  have list : directory.toList ≠ [] := by simpa using nonempty
  simp [isAbsolute, List.head?_append_of_ne_nil _ list]

inductive Joined (name : String) : String → String → Prop
  | bare : Joined name "" name
  | slashed (front : String) : Joined name (front ++ "/") (front ++ "/" ++ name)
  | plain (directory : String) : directory ≠ "" → Joined name directory (directory ++ "/" ++ name)

theorem joined_join (directory : String) {name : String} (relative : isAbsolute name = false) :
    Joined name directory (join directory name) := by
  simp only [join, relative, Bool.false_eq_true, if_false]
  by_cases empty : directory = ""
  next =>
    subst empty
    simpa using Joined.bare
  next =>
    by_cases slash : directory.toList.getLast? = some '/'
    next =>
      obtain ⟨front, ends⟩ := List.getLast?_eq_some_iff.1 slash
      have split : directory = String.ofList front ++ "/" := by
        rw [← String.toList_inj, ends]
        simp
      rw [if_pos (by simp [slash])]
      rw [split]
      exact .slashed (String.ofList front)
    next =>
      rw [if_neg (by simp [slash, empty])]
      exact .plain directory empty

theorem Joined.ne_empty {directory name path : String} (joined : Joined name directory path)
    (nonempty : name ≠ "") : path ≠ "" := by
  cases joined <;> simp [nonempty]

end Path

namespace FileSystem

def home? (fs : FileSystem) (directory : String) : Except FileProblem Location :=
  if directory.isEmpty then .ok fs.workingDirectory else fs.locate directory

theorem isSome_entry?_iff (fs : FileSystem) (location : Location) :
    (fs.entry? location).isSome ↔
      location = [] ∨ ∃ listed ∈ fs.entries, location <+: listed.1 := by
  unfold entry?
  split
  next entry found =>
    obtain ⟨before, after, listed, -⟩ := List.lookup_eq_some_iff.1 found
    simp only [Option.isSome_some, true_iff]
    exact .inr ⟨(location, entry), by simp [listed], List.prefix_rfl⟩
  next =>
    split
    next above => simpa [List.isPrefixOf_iff_prefix] using above
    next nothing => simpa [List.isPrefixOf_iff_prefix] using nothing

theorem entry?_append_eq_none (fs : FileSystem) {location : Location}
    (missing : fs.entry? location = none) (rest : Location) :
    fs.entry? (location ++ rest) = none := by
  -- A file makes all directories above it, listed or not.
  rw [← Option.not_isSome_iff_eq_none] at missing ⊢
  refine fun present => missing ?_
  obtain empty | ⟨listed, there, below⟩ := (fs.isSome_entry?_iff _).1 present
  next => exact (fs.isSome_entry?_iff _).2 (.inl (List.append_eq_nil_iff.1 empty).1)
  next =>
    exact (fs.isSome_entry?_iff _).2
      (.inr ⟨listed, there, (List.prefix_append location rest).trans below⟩)

inductive Entered (fs : FileSystem) (location : Location) (name : String) :
    Except FileProblem Location → Prop
  | missing : fs.entry? location = none → Entered fs location name (.error .notFound)
  | file (content : Bytes) : fs.entry? location = some (.file content) →
    Entered fs location name (.error .notDirectory)
  | still : fs.entry? location = some .directory → name = "" ∨ name = "." →
    Entered fs location name (.ok location)
  | tooLong : fs.entry? location = some .directory → Entered fs location name (.error .nameTooLong)
  | absent : fs.entry? location = some .directory → ¬(name = "" ∨ name = ".") →
    fs.entry? (location ++ [name]) = none → Entered fs location name (.error .notFound)
  | down : fs.entry? location = some .directory → ¬(name = "" ∨ name = ".") →
    Entered fs location name (.ok (location ++ [name]))

theorem entered_enter (fs : FileSystem) (location : Location) {name : String}
    (down : name ≠ "..") : Entered fs location name (fs.enter location name) := by
  unfold enter
  split
  next missing => exact .missing missing
  next content file => exact .file content file
  next directory =>
    split
    next still => exact .still directory still
    next moves =>
      split
      next => exact .tooLong directory
      next =>
        split
        next absent => exact .absent directory moves (by simpa using absent)
        next => exact .down directory moves

variable {fs fs' : FileSystem} {home location : Location} {names : List String}

theorem walked_ok (downwards : ∀ name ∈ names, name ≠ "..")
    (walked : names.foldlM fs.enter home = .ok location) : location = home ++ Path.steps names := by
  induction names generalizing home with
  | nil =>
    cases walked
    simp [Path.steps]
  | cons name rest ih =>
    obtain ⟨down, further⟩ := List.forall_mem_cons.1 downwards
    have entered := fs.entered_enter home down
    rw [List.foldlM_cons] at walked
    generalize fs.enter home name = result at walked entered
    cases entered with
    | still directory still =>
      rw [Path.steps_still still]
      exact ih further walked
    | down directory moves =>
      rw [Path.steps_down moves, ih further walked, List.append_assoc]
      rfl
    | _ => cases walked

theorem walked_notFound (downwards : ∀ name ∈ names, name ≠ "..")
    (walked : names.foldlM fs.enter home = .error .notFound) :
    fs.entry? (home ++ Path.steps names) = none := by
  induction names generalizing home with
  | nil => cases walked
  | cons name rest ih =>
    obtain ⟨down, further⟩ := List.forall_mem_cons.1 downwards
    have entered := fs.entered_enter home down
    rw [List.foldlM_cons] at walked
    generalize fs.enter home name = result at walked entered
    cases entered with
    -- Where something on the way is not there, its end is not there either.
    | missing missing => exact fs.entry?_append_eq_none missing _
    | still directory still =>
      rw [Path.steps_still still]
      exact ih further walked
    | absent directory moves absent =>
      rw [Path.steps_down moves, List.append_cons]
      exact fs.entry?_append_eq_none absent _
    | down directory moves =>
      have later := ih further walked
      rwa [Path.steps_down moves, List.append_cons]
    | file => cases walked
    | tooLong => cases walked

theorem walked_congr (below : ∀ rest, fs'.entry? (home ++ rest) = fs.entry? (home ++ rest))
    (downwards : ∀ name ∈ names, name ≠ "..") :
    names.foldlM fs'.enter home = names.foldlM fs.enter home := by
  induction names generalizing home with
  | nil => rfl
  | cons name rest ih =>
    obtain ⟨down, further⟩ := List.forall_mem_cons.1 downwards
    -- A step looks at the place it starts from and at the next one.
    have here := below []
    have next := below [name]
    rw [List.append_nil] at here
    have same : fs'.enter home name = fs.enter home name := by
      unfold enter
      rw [here, next]
    have entered := fs.entered_enter home down
    rw [List.foldlM_cons, List.foldlM_cons, same]
    generalize fs.enter home name = result at entered
    cases entered with
    | still => exact ih below further
    | down => exact ih (fun rest => by simpa using below (name :: rest)) further
    | _ => rfl

theorem enter_empty_bind (fs : FileSystem) (location : Location) {names : List String}
    (nonempty : names ≠ []) :
    (fs.enter location "" >>= fun home => names.foldlM fs.enter home) =
      names.foldlM fs.enter location := by
  -- Nobody gets past a place that is no directory, and the next name says so as well.
  obtain ⟨name, rest, rfl⟩ := List.exists_cons_of_ne_nil nonempty
  simp only [List.foldlM_cons]
  cases entry : fs.entry? location with
  | none => simp [enter, entry, bind, Except.bind]
  | some there =>
    cases there with
    | file content => simp [enter, entry, bind, Except.bind]
    | directory =>
      have stays : fs.enter location "" = .ok location := by simp [enter, entry]
      rw [stays]
      rfl

theorem locate_eq (fs : FileSystem) {path : String} (nonempty : path ≠ "") :
    fs.locate path =
      if path.toList.contains '\x00' then .error .nulInPath
      else if maxPath < path.utf8ByteSize then .error .nameTooLong
      else (Path.components path).foldlM fs.enter
        (if Path.isAbsolute path then [] else fs.workingDirectory) := by
  simp [locate, nonempty]

theorem home?_eq (fs : FileSystem) {directory : String} (nonempty : directory ≠ "")
    (plain : ¬directory.toList.contains '\x00') (short : ¬maxPath < directory.utf8ByteSize) :
    fs.home? directory = (Path.components directory).foldlM fs.enter
      (if Path.isAbsolute directory then [] else fs.workingDirectory) := by
  rw [home?, if_neg (by simpa using nonempty), locate_eq fs nonempty, if_neg plain, if_neg short]

theorem locate_join (fs : FileSystem) (directory : String) {name : String} (nonempty : name ≠ "")
    (relative : Path.isAbsolute name = false) :
    fs.locate (Path.join directory name) =
      if (Path.join directory name).toList.contains '\x00' then .error .nulInPath
      else if maxPath < (Path.join directory name).utf8ByteSize then .error .nameTooLong
      else fs.home? directory >>= fun home => (Path.components name).foldlM fs.enter home := by
  have joined := Path.joined_join directory relative
  generalize Path.join directory name = path at joined ⊢
  rw [locate_eq fs (joined.ne_empty nonempty)]
  split
  next => rfl
  next plain =>
    split
    next => rfl
    next short =>
      cases joined with
      | bare =>
        simp only [relative, home?]
        rfl
      | slashed front =>
        have nonempty : front ++ "/" ≠ "" := by simp
        have whole := fs.home?_eq nonempty (by simp at plain ⊢; tauto)
          (by simp [String.utf8ByteSize_append] at short ⊢; omega)
        -- Between two slashes there is an empty name, which leads nowhere else.
        have last : Path.components (front ++ "/") = Path.components front ++ [""] := by
          have slash := Path.components_slash front ""
          rwa [String.append_empty] at slash
        rw [whole, last, Path.components_slash, Path.isAbsolute_append nonempty,
          List.foldlM_append, List.foldlM_append, bind_assoc]
        congr 1
        funext home
        simpa using (fs.enter_empty_bind home (Path.components_ne_nil name)).symm
      | plain directory nonempty =>
        have whole := fs.home?_eq nonempty (by simp at plain ⊢; tauto)
          (by simp [String.utf8ByteSize_append] at short ⊢; omega)
        rw [whole, Path.components_slash, String.append_assoc, Path.isAbsolute_append nonempty,
          List.foldlM_append]

theorem directory_of_walked (nonempty : names ≠ []) (downwards : ∀ name ∈ names, name ≠ "..")
    (walked : names.foldlM fs.enter home = .ok location) :
    fs.entry? home = some .directory := by
  obtain ⟨name, rest, rfl⟩ := List.exists_cons_of_ne_nil nonempty
  have entered := fs.entered_enter home (downwards name List.mem_cons_self)
  rw [List.foldlM_cons] at walked
  generalize fs.enter home name = result at walked entered
  cases entered with
  | still directory => exact directory
  | down directory => exact directory
  | _ => cases walked

def descend (fs : FileSystem) (home : Location) (names : List String) :
    Except FileProblem (Location × FileEntry) :=
  match names.foldlM fs.enter home with
  | .error problem => .error problem
  | .ok location =>
    match fs.entry? location with
    | none => .error .notFound
    | some entry => .ok (location, entry)

inductive Descended (fs : FileSystem) (home : Location) (names : List String) :
    Except FileProblem (Location × FileEntry) → Prop
  | found (entry : FileEntry) : fs.entry? home = some .directory →
    fs.entry? (home ++ Path.steps names) = some entry →
    Descended fs home names (.ok (home ++ Path.steps names, entry))
  | absent : fs.entry? (home ++ Path.steps names) = none →
    Descended fs home names (.error .notFound)
  | refused (problem : FileProblem) : problem ≠ .notFound →
    Descended fs home names (.error problem)

theorem descended_descend (fs : FileSystem) (home : Location) (nonempty : names ≠ [])
    (downwards : ∀ name ∈ names, name ≠ "..") :
    Descended fs home names (fs.descend home names) := by
  unfold descend
  split
  next problem walked =>
    by_cases absent : problem = .notFound
    next =>
      subst absent
      exact .absent (walked_notFound downwards walked)
    next => exact .refused problem absent
  next location walked =>
    have directory := directory_of_walked nonempty downwards walked
    obtain rfl := walked_ok downwards walked
    split
    next absent => exact .absent absent
    next entry there => exact .found entry directory there

theorem descend_congr (below : ∀ rest, fs'.entry? (home ++ rest) = fs.entry? (home ++ rest))
    (downwards : ∀ name ∈ names, name ≠ "..") :
    fs'.descend home names = fs.descend home names := by
  unfold descend
  rw [walked_congr below downwards]
  split
  next => rfl
  next location walked =>
    obtain rfl := walked_ok downwards walked
    rw [below]

/-- A joined path is refused as a whole, or it leads to the directory and on from there. -/
theorem find_join (directory : String) {name : String} (nonempty : name ≠ "")
    (relative : Path.isAbsolute name = false) :
    (∃ problem, problem ≠ .notFound ∧
      ∀ fs : FileSystem, fs.find (Path.join directory name) = .error problem) ∨
    ∀ fs : FileSystem, fs.find (Path.join directory name) =
      fs.home? directory >>= fun home => fs.descend home (Path.components name) := by
  simp only [find, locate_join _ directory nonempty relative]
  split
  next => exact .inl ⟨.nulInPath, by simp, fun _ => rfl⟩
  next =>
    split
    next => exact .inl ⟨.nameTooLong, by simp, fun _ => rfl⟩
    next =>
      refine .inr fun fs => ?_
      cases fs.home? directory <;> rfl

inductive Sought (fs : FileSystem) (directory name : String) :
    Except FileProblem (Location × FileEntry) → Prop
  | inside (home : Location) (result : Except FileProblem (Location × FileEntry)) :
    fs.home? directory = .ok home → Descended fs home (Path.components name) result →
    Sought fs directory name result
  | homeless : fs.home? directory = .error .notFound → Sought fs directory name (.error .notFound)
  | refused (problem : FileProblem) : problem ≠ .notFound →
    Sought fs directory name (.error problem)

theorem sought_find (fs : FileSystem) (directory : String) {name : String} (nonempty : name ≠ "")
    (relative : Path.isAbsolute name = false)
    (downwards : ∀ part ∈ Path.components name, part ≠ "..") :
    Sought fs directory name (fs.find (Path.join directory name)) := by
  obtain ⟨problem, other, refused⟩ | leads := find_join directory nonempty relative
  next =>
    rw [refused]
    exact .refused problem other
  next =>
    rw [leads]
    cases homed : fs.home? directory with
    | error problem =>
      by_cases absent : problem = .notFound
      next =>
        subst absent
        exact .homeless homed
      next => exact .refused problem absent
    | ok home =>
      exact .inside home _ homed
        (fs.descended_descend home (Path.components_ne_nil name) downwards)

/-- For each of the directories both systems have the same home, with the same below it. -/
def Agree (fs fs' : FileSystem) (directories : List String) : Prop :=
  ∀ directory ∈ directories, fs'.home? directory = fs.home? directory ∧
    ∀ home, fs.home? directory = .ok home → ∀ rest,
      fs'.entry? (home ++ rest) = fs.entry? (home ++ rest)

theorem Agree.read_join {directories : List String} (agree : Agree fs fs' directories)
    {directory : String} (listed : directory ∈ directories) {name : String} (nonempty : name ≠ "")
    (relative : Path.isAbsolute name = false)
    (downwards : ∀ part ∈ Path.components name, part ≠ "..") :
    fs'.read (Path.join directory name) = fs.read (Path.join directory name) := by
  suffices found : fs'.find (Path.join directory name) = fs.find (Path.join directory name) by
    rw [read, found, read]
  obtain ⟨same, below⟩ := agree directory listed
  obtain ⟨problem, -, refused⟩ | leads := find_join directory nonempty relative
  next => rw [refused, refused]
  next =>
    rw [leads, leads, same]
    cases homed : fs.home? directory with
    | error problem => rfl
    | ok home => exact descend_congr (below home homed) downwards

end FileSystem

end DvbReceiver
