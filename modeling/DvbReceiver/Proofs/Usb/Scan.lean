import DvbReceiver.Proofs.Files
import DvbReceiver.Proofs.Text
import DvbReceiver.Usb.Scan

set_option autoImplicit false

namespace DvbReceiver

namespace FileSystem

theorem nodup_eraseDups (names : List String) : names.eraseDups.Nodup := by
  induction length : names.length using Nat.strong_induction_on generalizing names with
  | _ n ih =>
    cases names with
    | nil => simp
    | cons name rest =>
      rw [List.eraseDups_cons, List.nodup_cons, List.mem_eraseDups]
      have shorter := List.length_filter_le (fun other => !other == name) rest
      rw [List.length_cons] at length
      exact ⟨by simp, ih _ (by omega) _ rfl⟩

theorem list_of_find {fs : FileSystem} {path : String} {location : Location}
    (found : fs.find path = .ok (location, .directory)) :
    ∃ names, fs.list path = .ok names ∧ names.Nodup ∧
      ∀ name, name ∈ names ↔ (fs.entry? (location ++ [name])).isSome := by
  refine ⟨_, by rw [list, found], nodup_eraseDups _, fun name => ?_⟩
  rw [List.mem_eraseDups, List.mem_filterMap, isSome_entry?_iff]
  simp only [List.append_eq_nil_iff, List.cons_ne_nil, and_false, false_or]
  refine exists_congr fun (listed, entry) => and_congr_right fun _ => ?_
  split
  next above =>
    obtain ⟨below, rfl⟩ := List.isPrefixOf_iff_prefix.1 above
    rw [List.drop_left, List.prefix_append_right_inj]
    cases below with
    | nil => simp
    | cons first rest => simp [eq_comm]
  next apart =>
    refine iff_of_false (by simp) fun below => apart ?_
    exact List.isPrefixOf_iff_prefix.2 ((List.prefix_append ..).trans below)

end FileSystem

namespace Usb

variable {fs : FileSystem} {path : String} {value : Nat}

def Unmarked (text rest : List Char) : Prop :=
  ∃ count, text = (List.replicate count ['0', 'x']).flatten ++ rest ∧ ¬['0', 'x'] <+: rest

theorem unmarked_dropHexMarks (text : List Char) : Unmarked text (dropHexMarks text) := by
  fun_induction dropHexMarks text with
  | case1 rest ih =>
    obtain ⟨count, split, plain⟩ := ih
    exact ⟨count + 1, by simp [List.replicate_succ, ← split], plain⟩
  | case2 text plain =>
    refine ⟨0, rfl, fun ⟨rest, marked⟩ => plain rest marked.symm⟩

theorem dropHexMarks_of_unmarked {text rest : List Char} (unmarked : Unmarked text rest) :
    dropHexMarks text = rest := by
  obtain ⟨count, rfl, plain⟩ := unmarked
  induction count with
  | zero =>
    rw [List.replicate_zero, List.flatten_nil, List.nil_append, dropHexMarks]
    exact fun others same => plain ⟨others, same.symm⟩
  | succ count ih => exact ih

theorem unmarked_iff {text rest : List Char} : Unmarked text rest ↔ dropHexMarks text = rest :=
  ⟨dropHexMarks_of_unmarked, fun same => same ▸ unmarked_dropHexMarks text⟩

def Holds (fs : FileSystem) (path : String) (core : List Char) : Prop :=
  ∃ text : String, fs.read path = .ok text.toUTF8.data.toList ∧ Text.Trimmed text.toList core

theorem attribute?_eq_some_iff {core : List Char} :
    attribute? fs path = some core ↔ Holds fs path core := by
  unfold attribute? Holds
  cases read : fs.read path with
  | error problem => simp
  | ok content =>
    simp only [Option.map_eq_some_iff, Text.utf8?_eq_some_iff, Text.trimmed_iff, Except.ok.injEq]
    exact exists_congr fun text => and_congr_left fun _ => eq_comm

def HexFile (fs : FileSystem) (path : String) (value : Nat) : Prop :=
  ∃ core rest, Holds fs path core ∧ Unmarked core rest ∧ Number.Numeral 16 rest value ∧
    value < 2 ^ 16

def DecimalFile (fs : FileSystem) (path : String) (value : Nat) : Prop :=
  ∃ core, Holds fs path core ∧ Number.Numeral 10 core value ∧ value < 2 ^ 32

def CountsAs (fs : FileSystem) (path : String) (value : Nat) : Prop :=
  DecimalFile fs path value ∨ (∀ other, ¬DecimalFile fs path other) ∧ value = 0

theorem toOption_eq_some_iff {ε α : Type} {result : Except ε α} {a : α} :
    result.toOption = some a ↔ result = .ok a := by
  cases result <;> simp [Except.toOption]

theorem hexAttribute?_eq_some_iff : hexAttribute? fs path = some value ↔ HexFile fs path value := by
  unfold hexAttribute? HexFile
  simp only [Option.bind_eq_some_iff, toOption_eq_some_iff, attribute?_eq_some_iff,
    Number.read_ok_iff (by decide : 16 ≤ 36), unmarked_iff]
  refine exists_congr fun core => ?_
  rw [exists_and_left, exists_eq_left']
  exact and_congr_right fun _ => and_congr_right fun _ => Nat.lt_succ_iff.symm

theorem decimalAttribute?_eq_some_iff :
    decimalAttribute? fs path = some value ↔ DecimalFile fs path value := by
  unfold decimalAttribute? DecimalFile
  simp only [Option.bind_eq_some_iff, toOption_eq_some_iff, attribute?_eq_some_iff,
    Number.read_ok_iff (by decide : 10 ≤ 36)]
  refine exists_congr fun core => and_congr_right fun _ => and_congr_right fun _ => ?_
  exact Nat.lt_succ_iff.symm

theorem countsAs_iff : CountsAs fs path value ↔ (decimalAttribute? fs path).getD 0 = value := by
  unfold CountsAs
  simp only [← decimalAttribute?_eq_some_iff]
  cases decimalAttribute? fs path <;> simp [eq_comm]

/-- What a record tells about the directory at `directory`. -/
structure Describes (fs : FileSystem) (directory : String) (a : Attached) : Prop where
  path : a.path = directory
  vendor : HexFile fs (Path.join directory "idVendor") a.id.vendor
  product : HexFile fs (Path.join directory "idProduct") a.id.product
  bus : CountsAs fs (Path.join directory "busnum") a.bus
  device : CountsAs fs (Path.join directory "devnum") a.device
  known : a.known = identify? knownProducts a.id

def Identifiable (fs : FileSystem) (directory : String) : Prop :=
  (∃ vendor, HexFile fs (Path.join directory "idVendor") vendor) ∧
    ∃ product, HexFile fs (Path.join directory "idProduct") product

theorem describes_of_attached? {a : Attached} (attached : attached? fs path = some a) :
    Describes fs path a := by
  unfold attached? at attached
  dsimp only at attached
  split at attached
  next vendor product hasVendor hasProduct =>
    cases attached
    exact ⟨rfl, hexAttribute?_eq_some_iff.1 hasVendor, hexAttribute?_eq_some_iff.1 hasProduct,
      countsAs_iff.2 rfl, countsAs_iff.2 rfl, rfl⟩
  next => cases attached

theorem isSome_attached?_iff : (attached? fs path).isSome ↔ Identifiable fs path := by
  unfold attached? Identifiable
  simp only [← hexAttribute?_eq_some_iff]
  cases hexAttribute? fs (Path.join path "idVendor") with
  | none => simp
  | some vendor =>
    cases hexAttribute? fs (Path.join path "idProduct") with
    | none => simp
    | some product => simp

def Attached.Ordered (a b : Attached) : Prop :=
  a.bus < b.bus ∨ a.bus = b.bus ∧ a.device ≤ b.device

theorem precedes_iff (a b : Attached) :
    a.precedes b = true ↔ a.bus < b.bus ∨ a.bus = b.bus ∧
      (a.device < b.device ∨ a.device = b.device ∧ a.path ≤ b.path) := by
  simp [Attached.precedes]

theorem precedes_total (a b : Attached) : (a.precedes b || b.precedes a) = true := by
  rw [Bool.or_eq_true, precedes_iff, precedes_iff]
  have paths := String.le_total a.path b.path
  have buses := Nat.lt_trichotomy a.bus b.bus
  have devices := Nat.lt_trichotomy a.device b.device
  grind

theorem precedes_trans (a b c : Attached) (first : a.precedes b = true)
    (second : b.precedes c = true) : a.precedes c = true := by
  rw [precedes_iff] at *
  have paths : a.path ≤ b.path → b.path ≤ c.path → a.path ≤ c.path := String.le_trans
  grind

theorem ordered_of_precedes {a b : Attached} (first : a.precedes b = true) : a.Ordered b := by
  rw [precedes_iff] at first
  unfold Attached.Ordered
  omega

theorem describes_filterMap (fs : FileSystem) (root : String) (names : List String) :
    List.Forall₂ (fun name a => Describes fs (Path.join root name) a)
      (names.filter fun name => (attached? fs (Path.join root name)).isSome)
      (names.filterMap fun name => attached? fs (Path.join root name)) := by
  induction names with
  | nil => exact .nil
  | cons name rest ih =>
    rw [List.filter_cons, List.filterMap_cons]
    cases attached : attached? fs (Path.join root name) with
    | none => simpa using ih
    | some a => simpa using ⟨describes_of_attached? attached, ih⟩

/-- Whatever a directory that can be read holds, scanning it succeeds. There is one record for each
entry with two ids, which tells what the files of the entry say, and the records are ordered by
bus and device number. -/
theorem scanned_all (fs : FileSystem) (root : String) (location : Location)
    (readable : fs.find root = .ok (location, .directory)) :
    ∃ names found records, scan fs root = .ok records ∧ records.Perm found ∧
      List.Forall₂ (fun name a => Describes fs (Path.join root name) a) names found ∧
      names.Nodup ∧
      (∀ name, name ∈ names ↔
        (fs.entry? (location ++ [name])).isSome ∧ Identifiable fs (Path.join root name)) ∧
      records.Pairwise Attached.Ordered := by
  obtain ⟨names, listed, once, present⟩ := FileSystem.list_of_find readable
  refine ⟨_, _, _, by rw [scan, listed], List.mergeSort_perm .., describes_filterMap fs root names,
    once.filter _, fun name => ?_, ?_⟩
  · rw [List.mem_filter, present, isSome_attached?_iff]
  · exact (List.pairwise_mergeSort precedes_trans precedes_total _).imp ordered_of_precedes

theorem scanned_all_muddled :
    let fs : FileSystem :=
      { entries :=
          [(["sys", "2-1", "idVendor"], .file " 0x0xFE9\n".toUTF8.data.toList),
            (["sys", "2-1", "idProduct"], .file "+d501".toUTF8.data.toList),
            (["sys", "2-1", "busnum"], .file [0xFF]),
            (["sys", "1-1", "idVendor"], .file "10000".toUTF8.data.toList),
            (["sys", "1-1:1.0"], .directory)]
        workingDirectory := ["tmp"] }
    fs.find "/sys/." = .ok (["sys"], .directory) ∧
      ∃ names found records, scan fs "/sys/." = .ok records ∧ records.Perm found ∧
        List.Forall₂ (fun name a => Describes fs (Path.join "/sys/." name) a) names found ∧
        names.Nodup ∧
        (∀ name, name ∈ names ↔ (fs.entry? (["sys"] ++ [name])).isSome ∧
          Identifiable fs (Path.join "/sys/." name)) ∧
        records.Pairwise Attached.Ordered := by
  intro fs
  have readable : fs.find "/sys/." = .ok (["sys"], .directory) := by decide +kernel
  exact ⟨readable, scanned_all fs "/sys/." ["sys"] readable⟩

end Usb

end DvbReceiver
