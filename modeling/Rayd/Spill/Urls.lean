import Rayd.Lib.Utf8
import Rayd.Spill.LocalFs

/-! Spill urls over paths as they are on disk, strings of bytes. The url of a file shows
its path with everything that is not UTF-8 replaced. A url is accepted when the path in
it begins, component by component, with the root; `..` is a component like any other
there, but not to the operating system. Symbolic links are left out. -/
namespace Rayd.Spill.Urls
open Memory

abbrev Name := Bytes

def slash : UInt8 := 47

def dot : Name := [46]

def dotDot : Name := [46, 46]

inductive Component where
  | rootDir
  | curDir
  | parentDir
  | normal (name : Name)
  deriving DecidableEq

/-- A piece between separators; empty ones and `.` are none. -/
def component? (piece : Name) : Option Component :=
  if piece = [] ∨ piece = dot then none
  else if piece = dotDot then some .parentDir
  else some (.normal piece)

/-- A leading `.` is kept. -/
def components (path : Bytes) : List Component :=
  let pieces := path.splitOn slash
  let inner := pieces.filterMap component?
  if path.head? = some slash then .rootDir :: inner
  else if pieces.head? = some dot then .curDir :: inner
  else inner

def startsWith (path base : Bytes) : Bool := components base <+: components path

/-- Where the operating system arrives: `..` goes back up, and stays at the top. -/
def walk (names : List Name) : Component → List Name
  | .rootDir => []
  | .curDir => names
  | .parentDir => names.dropLast
  | .normal name => names ++ [name]

def resolve (path : Bytes) : List Name := (components path).foldl walk []

/-- A name that stands for itself in a path. -/
structure Plain (name : Name) : Prop where
  some : name ≠ []
  notDot : name ≠ dot
  notDotDot : name ≠ dotDot
  whole : slash ∉ name

/-- An absolute path as its names. -/
def absolute : List Name → Bytes
  | [] => [slash]
  | names => names.flatMap (slash :: ·)

/-- `join` with a relative path. -/
def join (path name : Bytes) : Bytes :=
  if path.getLast? = some slash then path ++ name else path ++ slash :: name

/-- A canonical spill root. -/
structure Root where
  names : List Name
  plain : ∀ name ∈ names, Plain name

namespace Root

def path (root : Root) : Bytes := absolute root.names

def fileName (id : ObjectId) : Name := Utf8.encode (hex id.bytes ++ ".spill".toList)

def pathFor (root : Root) (id : ObjectId) : Bytes := join root.path (fileName id)

def urlFor (path : Bytes) : Text := LocalFsBackend.urlScheme ++ Utf8.lossy path

def parseUrl (root : Root) (url : Text) : Except SpillError Bytes :=
  if LocalFsBackend.urlScheme <+: url then
    let path := Utf8.encode (url.drop LocalFsBackend.urlScheme.length)
    if startsWith path root.path then .ok path
    else .error (.corrupt url ("path is outside spill root ".toList ++ Utf8.lossy root.path))
  else .error (.corrupt url "url missing file:// prefix".toList)

/-- Strictly below the root. -/
def Below (root : Root) (names : List Name) : Prop := ∃ name rest, names = root.names ++ name :: rest

/-- The url of a file shows all of the root as it is. -/
def Shown (root : Root) : Prop := ∀ name ∈ root.names, Utf8.Valid name

end Root

section Splitting
variable {names : List Name}

theorem intercalate_cons (separator : A) (first : List A) (names : List (List A)) :
    [separator].intercalate (first :: names) = first ++ names.flatMap (separator :: ·) := by
  induction names generalizing first with
  | nil => simp
  | cons name names ih =>
    rw [List.intercalate_cons_cons, ih, List.flatMap_cons]
    simp

theorem splitOn_flatMap (whole : ∀ name ∈ names, slash ∉ name) :
    (names.flatMap (slash :: ·)).splitOn slash = [] :: names := by
  have joined := intercalate_cons slash [] names
  rw [List.nil_append] at joined
  rw [← joined]
  refine List.splitOn_intercalate slash ?_ (by simp)
  intro name member
  rcases List.mem_cons.mp member with rfl | member
  · exact List.not_mem_nil
  · exact whole name member

theorem absolute_append (front : List Name) (last : Name) :
    absolute (front ++ [last]) = (front ++ [last]).flatMap (slash :: ·) := by
  cases front <;> rfl

theorem component?_plain {name : Name} (plain : Plain name) : component? name = some (.normal name) := by
  rw [component?, if_neg (not_or.mpr ⟨plain.some, plain.notDot⟩), if_neg plain.notDotDot]

theorem components_absolute (plain : ∀ name ∈ names, Plain name) :
    components (absolute names) = .rootDir :: names.map .normal := by
  cases names with
  | nil => decide
  | cons first names =>
    have split := splitOn_flatMap fun name member => (plain name member).whole
    have top : ((first :: names).flatMap (slash :: ·)).head? = some slash := rfl
    simp only [components, absolute, split]
    rw [if_pos top, List.filterMap_cons_none (show component? [] = none by decide)]
    refine congrArg (Component.rootDir :: ·) (List.filterMap_eq_map_iff_forall_eq_some.mpr ?_)
    intro name member
    exact component?_plain (plain name member)

theorem join_absolute (plain : ∀ name ∈ names, Plain name) (name : Name) :
    join (absolute names) name = absolute (names ++ [name]) := by
  rcases List.eq_nil_or_concat names with rfl | ⟨front, last, rfl⟩
  · simp [join, absolute]
  · rw [List.concat_eq_append] at plain ⊢
    obtain ⟨some, _, _, whole⟩ := plain last (by simp)
    have open' : (absolute (front ++ [last])).getLast? ≠ Option.some slash := by
      rw [absolute_append, List.flatMap_append, List.flatMap_singleton,
        List.getLast?_append_of_ne_nil _ (by simp), List.getLast?_cons_of_ne_nil some]
      intro ends
      exact whole (List.mem_of_getLast? ends)
    rw [join, if_neg open', absolute_append, absolute_append]
    simp

end Splitting

section Showing
variable {names : List Name}

def shown (name : Name) : Name := Utf8.encode (Utf8.lossy name)

theorem shown_eq_iff {name : Name} : shown name = name ↔ Utf8.Valid name :=
  Utf8.valid_iff_encode_lossy.symm

theorem shown_plain {name : Name} (plain : Plain name) : Plain (shown name) where
  some none := plain.some (Utf8.eq_of_encode_lossy [] (by decide) none)
  notDot same := plain.notDot (Utf8.eq_of_encode_lossy ['.'] (by decide) same)
  notDotDot same := plain.notDotDot (Utf8.eq_of_encode_lossy ['.', '.'] (by decide) same)
  whole member := plain.whole (Utf8.mem_of_mem_encode_lossy (by decide) member)

theorem lossy_flatMap (first : Name) (names : List Name) :
    Utf8.lossy (first ++ names.flatMap (slash :: ·)) =
      Utf8.lossy first ++ (names.map Utf8.lossy).flatMap ('/' :: ·) := by
  induction names generalizing first with
  | nil => simp
  | cons name names ih =>
    rw [List.flatMap_cons, List.cons_append, Utf8.lossy_append (by decide), ih, List.map_cons, List.flatMap_cons]
    rfl

theorem encode_flatMap (texts : List Text) :
    Utf8.encode (texts.flatMap ('/' :: ·)) = (texts.map Utf8.encode).flatMap (slash :: ·) := by
  induction texts with
  | nil => rfl
  | cons text texts ih =>
    rw [List.flatMap_cons, Utf8.encode_append, ih]
    rfl

theorem shown_absolute (names : List Name) : shown (absolute names) = absolute (names.map shown) := by
  have text := lossy_flatMap [] names
  rw [List.nil_append, Utf8.lossy_nil, List.nil_append] at text
  cases names with
  | nil =>
    have top := lossy_flatMap [] [[]]
    rw [show absolute [] = [] ++ [[]].flatMap (slash :: ·) from rfl, shown, top]
    simp
    rfl
  | cons name names =>
    rw [shown, show absolute (name :: names) = (name :: names).flatMap (slash :: ·) from rfl, text,
      encode_flatMap, List.map_map]
    rfl

theorem encode_display (path : Path) : Utf8.encode (display path) = absolute (path.map Utf8.encode) := by
  cases path with
  | nil => rfl
  | cons name names =>
    rw [show display (name :: names) = ['/'].intercalate ([] :: name :: names) from rfl, intercalate_cons,
      List.nil_append, encode_flatMap]
    rfl

end Showing

section Walking

/-- One step of a walk whose normal form so far is to go up a number of levels and then
down by names. -/
def climbStep (climbed : Nat × List Name) : Component → Nat × List Name
  | .parentDir => if climbed.2 = [] then (climbed.1 + 1, []) else (climbed.1, climbed.2.dropLast)
  | .normal name => (climbed.1, climbed.2 ++ [name])
  | .rootDir | .curDir => climbed

def climb (steps : List Component) : Nat × List Name := steps.foldl climbStep (0, [])

/-- Where a walk in normal form ends. -/
def arrive (start : List Name) (climbed : Nat × List Name) : List Name :=
  start.take (start.length - climbed.1) ++ climbed.2

theorem walk_arrive (start : List Name) (climbed : Nat × List Name) {step : Component} (inner : step ≠ .rootDir) :
    walk (arrive start climbed) step = arrive start (climbStep climbed step) := by
  obtain ⟨up, down⟩ := climbed
  cases step with
  | rootDir => exact absurd rfl inner
  | curDir => rfl
  | normal name => exact List.append_assoc ..
  | parentDir =>
    by_cases top : down = []
    · simp only [walk, arrive, climbStep, top, if_true, List.append_nil]
      rw [List.dropLast_eq_take, List.length_take, List.take_take]
      congr 1
      omega
    · simp only [walk, arrive, climbStep, if_neg top, List.dropLast_append_of_ne_nil top]

theorem foldl_walk (start : List Name) {steps : List Component} (inner : .rootDir ∉ steps) :
    steps.foldl walk start = arrive start (climb steps) := by
  have general : ∀ climbed, steps.foldl walk (arrive start climbed) =
      arrive start (steps.foldl climbStep climbed) := by
    induction steps with
    | nil => exact fun _ => rfl
    | cons step steps ih =>
      intro climbed
      rw [List.mem_cons, not_or] at inner
      rw [List.foldl_cons, walk_arrive start climbed (Ne.symm inner.1), ih inner.2]
      rfl
  have here := general (0, [])
  rwa [arrive, Nat.sub_zero, List.take_length, List.append_nil] at here

theorem foldl_walk_normal (start names : List Name) :
    (names.map Component.normal).foldl walk start = start ++ names := by
  induction names generalizing start with
  | nil => exact (List.append_nil start).symm
  | cons name names ih =>
    rw [List.map_cons, List.foldl_cons, ih]
    exact List.append_assoc ..

theorem rootDir_not_mem (path : Bytes) : .rootDir ∉ (components path).tail := by
  have inner : ∀ pieces : List Name, .rootDir ∉ pieces.filterMap component? := by
    intro pieces member
    obtain ⟨piece, _, found⟩ := List.mem_filterMap.mp member
    rw [component?] at found
    split_ifs at found <;> cases found
  simp only [components]
  split_ifs
  · exact inner _
  · exact inner _
  · exact fun member => inner _ (List.mem_of_mem_tail member)

end Walking

namespace Root
variable {root : Root}

theorem components_path (root : Root) : components root.path = .rootDir :: root.names.map .normal :=
  components_absolute root.plain

/-- The walk behind the root goes back down by the names it has gone up, and then further. -/
def Returns (root : Root) (climbed : Nat × List Name) : Prop :=
  ∃ name rest, climbed.2 = root.names.drop (root.names.length - climbed.1) ++ name :: rest

theorem below_arrive_iff (root : Root) (climbed : Nat × List Name) :
    root.Below (arrive root.names climbed) ↔ root.Returns climbed := by
  have level := List.take_append_drop (root.names.length - climbed.1) root.names
  constructor
  · rintro ⟨name, rest, same⟩
    refine ⟨name, rest, ?_⟩
    rw [arrive] at same
    nth_rewrite 3 [← level] at same
    rwa [List.append_assoc, List.append_cancel_left_eq] at same
  · rintro ⟨name, rest, same⟩
    refine ⟨name, rest, ?_⟩
    rw [arrive, same, ← List.append_assoc, level]

/-- What is behind the root in an accepted path. -/
def stepsBelow (root : Root) (target : Bytes) : List Component :=
  (components target).drop (root.names.length + 1)

theorem resolve_of_startsWith {target : Bytes} (starts : startsWith target root.path = true) :
    resolve target = arrive root.names (climb (root.stepsBelow target)) := by
  rw [startsWith, decide_eq_true_eq, components_path] at starts
  obtain ⟨rest, whole⟩ := starts
  have behind : root.stepsBelow target = rest := by
    rw [stepsBelow, ← whole, List.drop_left' (by simp)]
  have inner : .rootDir ∉ rest := by
    intro member
    refine rootDir_not_mem target ?_
    rw [← whole]
    exact List.mem_append_right _ member
  rw [behind, resolve, ← whole, List.foldl_append, List.foldl_cons, foldl_walk_normal]
  exact foldl_walk root.names inner

theorem parseUrl_ok_iff {url : Text} {target : Bytes} : root.parseUrl url = .ok target ↔
    LocalFsBackend.urlScheme <+: url ∧ target = Utf8.encode (url.drop LocalFsBackend.urlScheme.length) ∧
      startsWith target root.path = true := by
  simp only [parseUrl]
  constructor
  · intro accepted
    split_ifs at accepted with scheme inside
    cases accepted
    exact ⟨scheme, rfl, inside⟩
  · rintro ⟨scheme, rfl, inside⟩
    rw [if_pos scheme, if_pos inside]

theorem parseUrl_error {url : Text} {problem : SpillError} (refused : root.parseUrl url = .error problem) :
    ∃ reason, problem = .corrupt url reason := by
  simp only [parseUrl] at refused
  split_ifs at refused
  · cases refused
    exact ⟨_, rfl⟩
  · cases refused
    exact ⟨_, rfl⟩

theorem fileName_shown (id : ObjectId) : shown (fileName id) = fileName id :=
  shown_eq_iff.mpr ⟨_, rfl⟩

theorem fileName_plain (id : ObjectId) : Plain (fileName id) := by
  have long : ∀ text : Text, text.length < 6 → fileName id ≠ Utf8.encode text := by
    intro text short same
    have lengths := congrArg List.length (Utf8.encode_injective same)
    simp at lengths
    omega
  refine ⟨long [] (by decide), long ['.'] (by decide), long ['.', '.'] (by decide), fun member => ?_⟩
  rcases List.mem_append.mp (Utf8.mem_encode_ascii (by decide) member) with inside | inside
  · exact hex_plain _ inside
  · revert inside
    decide

theorem fileName_injective {id other : ObjectId} (same : fileName id = fileName other) : id = other :=
  Id.ext (hex_injective (List.append_cancel_right (Utf8.encode_injective same)))

theorem file_plain (root : Root) (id : ObjectId) : ∀ name ∈ root.names ++ [fileName id], Plain name := by
  intro name member
  rcases List.mem_append.mp member with old | new
  · exact root.plain name old
  · rw [List.mem_singleton.mp new]
    exact fileName_plain id

theorem pathFor_absolute (root : Root) (id : ObjectId) :
    root.pathFor id = absolute (root.names ++ [fileName id]) :=
  join_absolute root.plain _

theorem components_pathFor (root : Root) (id : ObjectId) :
    components (root.pathFor id) = .rootDir :: (root.names ++ [fileName id]).map .normal := by
  rw [pathFor_absolute, components_absolute (root.file_plain id)]

theorem resolve_pathFor (root : Root) (id : ObjectId) :
    resolve (root.pathFor id) = root.names ++ [fileName id] := by
  rw [resolve, components_pathFor, List.foldl_cons, foldl_walk_normal]
  rfl

theorem pathFor_injective (root : Root) {id other : ObjectId} (same : root.pathFor id = root.pathFor other) :
    id = other := by
  have names := congrArg resolve same
  rw [resolve_pathFor, resolve_pathFor, List.append_cancel_left_eq, List.cons.injEq] at names
  exact fileName_injective names.1

theorem shown_pathFor (root : Root) (id : ObjectId) :
    shown (root.pathFor id) = absolute (root.names.map shown ++ [fileName id]) := by
  rw [pathFor_absolute, shown_absolute, List.map_append, List.map_singleton, fileName_shown]

theorem map_shown_iff (root : Root) : root.names.map shown = root.names ↔ root.Shown := by
  have each := List.map_inj_left (l := root.names) (f := shown) (g := id)
  rw [List.map_id] at each
  exact each.trans (forall₂_congr fun name _ => shown_eq_iff)

theorem shown_pathFor_eq (root : Root) (whole : root.Shown) (id : ObjectId) :
    shown (root.pathFor id) = root.pathFor id := by
  rw [shown_pathFor, root.map_shown_iff.mpr whole, pathFor_absolute]

theorem startsWith_shown_iff (root : Root) (id : ObjectId) :
    startsWith (shown (root.pathFor id)) root.path = true ↔ root.Shown := by
  have plain : ∀ name ∈ root.names.map shown ++ [fileName id], Plain name := by
    intro name member
    rcases List.mem_append.mp member with old | new
    · obtain ⟨inner, here, rfl⟩ := List.mem_map.mp old
      exact shown_plain (root.plain inner here)
    · rw [List.mem_singleton.mp new]
      exact fileName_plain id
  rw [← map_shown_iff, startsWith, decide_eq_true_eq, shown_pathFor, components_absolute plain, components_path,
    List.cons_prefix_cons, List.map_append]
  constructor
  · rintro ⟨_, starts⟩
    have front := List.prefix_of_prefix_length_le starts (List.prefix_append _ _) (by simp)
    have same := front.eq_of_length (by simp)
    exact (List.map_injective_iff.mpr (fun _ _ => Component.normal.inj) same).symm
  · intro same
    rw [same]
    exact ⟨rfl, List.prefix_append _ _⟩

/-- An object's url is accepted where the root can be shown, and then leads back to the
object's path. -/
theorem parseUrl_urlFor_iff (root : Root) (id : ObjectId) (target : Bytes) :
    root.parseUrl (urlFor (root.pathFor id)) = .ok target ↔ root.Shown ∧ target = root.pathFor id := by
  have stripped : Utf8.encode ((urlFor (root.pathFor id)).drop LocalFsBackend.urlScheme.length) =
      shown (root.pathFor id) := by
    rw [urlFor, List.drop_left' rfl, shown]
  rw [parseUrl_ok_iff, stripped]
  constructor
  · rintro ⟨_, rfl, starts⟩
    have whole := (root.startsWith_shown_iff id).mp starts
    exact ⟨whole, root.shown_pathFor_eq whole id⟩
  · rintro ⟨whole, rfl⟩
    have same := root.shown_pathFor_eq whole id
    refine ⟨List.prefix_append _ _, same.symm, ?_⟩
    rw [← same]
    exact (root.startsWith_shown_iff id).mpr whole

end Root
end Rayd.Spill.Urls
