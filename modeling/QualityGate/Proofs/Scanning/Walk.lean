import QualityGate.Proofs.Scanning.FixedOrder
import QualityGate.Proofs.Scanning.Locations
import QualityGate.Proofs.Text.Sorting
import QualityGate.Scanning.Target

/-!
A walk neither loses nor repeats anything. What is to be reported is said by locations in the tree: a file, or a link
that does not lead to a directory, if the check accepts it; and a directory that cannot be listed. Each directory above
it must not be skipped, and must show the entry on the way. The scan of a directory hands over one report for each such
location, in the lexicographic order of the locations, up to the first file whose opening does not end. If the directory
itself cannot be listed, the scan fails and reports nothing.
-/

namespace QualityGate

/-! ### Reports -/

def FileReport.failed (path reason : Text) : FileReport := { path, error := some ⟨path, reason⟩ }

/-- A report is on a path: its violations are there, and if it failed it holds nothing but the error. -/
structure FileReport.IsOn (report : FileReport) (display : Text) : Prop where
  path : report.path = display
  methods : ∀ violation ∈ report.methods, violation.path = display
  lines : ∀ violation ∈ report.lines, violation.path = display
  failed : ∀ error, report.error = some error → report = .failed display error.error

theorem FileReport.isOn_failed (display reason : Text) : (FileReport.failed display reason).IsOn display :=
  ⟨rfl, nofun, nofun, fun _ given => by cases given; rfl⟩

theorem Detector.path_of_judge {detector : Detector} {path text : Text} {scopes : List TypeScope}
    {progress : Detector.Progress} {declaration : MethodDeclaration} {body : MethodBody} {violation : MethodViolation}
    (judged : (detector.judge path text scopes progress declaration body).1 = some violation) :
    violation.path = path := by
  unfold judge at judged
  dsimp only at judged
  split at judged
  · cases judged
    rfl
  · cases judged

theorem Detector.path_of_mem_judgeAll {detector : Detector} {path text : Text} {scopes : List TypeScope}
    {progress : Detector.Progress} {methods : List MethodDeclaration} {violation : MethodViolation}
    (member : violation ∈ detector.judgeAll path text scopes progress methods) : violation.path = path := by
  induction methods generalizing progress with
  | nil => cases member
  | cons declaration rest ih =>
    rw [judgeAll] at member
    cases found : declaration.body? text with
    | none =>
      simp only [found] at member
      exact ih member
    | some body =>
      simp only [found, List.mem_append, Option.mem_toList] at member
      rcases member with own | later
      · exact path_of_judge own
      · exact ih later

theorem LineLength.path_of_mem_violations {maximum : Nat} {path : Text} {source : Source} {violation : LineViolation}
    (member : violation ∈ violations maximum path source) : violation.path = path := by
  obtain ⟨⟨line, number⟩, _, judged⟩ := List.mem_filterMap.mp member
  have judged : judge maximum path line number = some violation := judged
  unfold judge at judged
  dsimp only at judged
  split at judged
  · cases judged
    rfl
  · cases judged

/-- A check that succeeds reports violations of its own kind, on the path that it was given. -/
theorem Checker.run_cases {checker : Checker} {path : Text} {source : Source} {report : FileReport}
    (checked : checker.run path source = .ok report) :
    (∃ check violations, checker = .methods check ∧ report = { path, methods := violations } ∧
        ∀ violation ∈ violations, violation.path = path) ∨
      ∃ check violations, checker = .lines check ∧ report = { path, lines := violations } ∧
        ∀ violation ∈ violations, violation.path = path := by
  cases checker with
  | methods check =>
    rw [run, MethodCheck.run] at checked
    split at checked
    · cases checked
    · cases decoded : source.decode with
      | error error =>
        rw [decoded] at checked
        cases checked
      | ok content =>
        rw [decoded] at checked
        cases checked
        exact .inl ⟨check, _, rfl, rfl, fun _ => Detector.path_of_mem_judgeAll⟩
  | lines check =>
    rw [run, LineCheck.run] at checked
    split at checked
    · cases checked
    · cases checked
      exact .inr ⟨check, _, rfl, rfl, fun _ => LineLength.path_of_mem_violations⟩

theorem Checker.isOn_of_run {checker : Checker} {path : Text} {source : Source} {report : FileReport}
    (checked : checker.run path source = .ok report) : report.IsOn path := by
  rcases run_cases checked with ⟨check, violations, rfl, rfl, own⟩ | ⟨check, violations, rfl, rfl, own⟩
  · exact ⟨rfl, own, nofun, nofun⟩
  · exact ⟨rfl, nofun, own, nofun⟩

namespace Walk

/-! ### What is to be reported -/

/-- The check does not skip the name at the end of a location. -/
def Unskipped (walk : Walk) (location : List Text) : Prop :=
  ∀ name, location.getLast? = some name → walk.checker.skipsDirectory name = false

/-- What is seen in a directory under the root. The root itself is not looked for again. -/
def listingAt (walk : Walk) (top : FileNode) (location : List Text) : Listing :=
  match top.at? location with
  | none => ⟨[], none⟩
  | some node =>
    if location = [] then node.listing
    else
      match walk.wayFault? top location with
      | some fault => ⟨[], some ⟨.opening, fault⟩⟩
      | none => node.listing

/-- What comes of opening what stands at a location. A link can lead anywhere. -/
def openingAt (walk : Walk) (top : FileNode) (location : List Text) : Opening :=
  match top.at? location with
  | none | some (.link _) => walk.workspace.opening (walk.pathAt location)
  | some node =>
    match walk.wayFault? top location with
    | some fault => .failed fault
    | none => node.opening

/-- Whether a location is reported, by what stands there. -/
def Reports (walk : Walk) (top : FileNode) (location : List Text) : FileNode → Prop
  | .file _ _ => walk.checker.accepts (walk.pathAt location) = true
  | .link _ =>
    walk.leadsToDirectory (walk.pathAt location) = false ∧ walk.checker.accepts (walk.pathAt location) = true
  | .directory _ _ => walk.Unskipped location ∧ (walk.listingAt top location).fault ≠ none
  | .pipe _ => False

/-- The walk comes from a directory to one of its entries: it does not skip the directory, and sees the entry there. -/
def Shows (walk : Walk) (top : FileNode) (location : List Text) (name : Text) : Prop :=
  walk.Unskipped location ∧ name ∈ (walk.listingAt top location).entries.map (·.1)

/-- A location under a directory is to be reported: what stands there is, and the walk comes there. -/
structure Due (walk : Walk) (top : FileNode) (location : List Text) : Prop where
  below : location ≠ []
  reported : ∃ node, top.at? location = some node ∧ walk.Reports top location node
  shown : ∀ above name, above ++ [name] <+: location → walk.Shows top above name

/-- The report on what comes of opening a location; nothing, if it does not end. -/
def reportOpened (walk : Walk) (location : List Text) : Opening → Option FileReport
  | .failed fault =>
    some (.failed (walk.displayAt location) (AccessFault.message ⟨.opening, fault⟩ (walk.pathAt location)))
  | .opened content broken unclosed =>
    let source : Source :=
      ⟨content, broken.map fun fault => AccessFault.message ⟨.reading, fault⟩ (walk.pathAt location)⟩
    match walk.checker.run (walk.displayAt location) source, unclosed with
    | .error error, _ => some (.failed (walk.displayAt location) error.message)
    | .ok _, some fault =>
      some (.failed (walk.displayAt location) (AccessFault.message ⟨.closing, fault⟩ (walk.pathAt location)))
    | .ok report, none => some report
  | .waiting => none

/-- The report on a location that is due: why the directory there cannot be listed, or what the check says of the
file. -/
def reportAt? (walk : Walk) (top : FileNode) (location : List Text) : Option FileReport :=
  match top.at? location with
  | some (.directory _ _) =>
    (walk.listingAt top location).fault.map fun fault =>
      .failed (walk.displayAt location) (fault.message (walk.pathAt location))
  | _ => walk.reportOpened location (walk.openingAt top location)

/-- The reports on locations one after the other, and what comes after them. -/
def inTurn (walk : Walk) (top : FileNode) (locations : List (List Text)) (rest : Scan.Course) : Scan.Course :=
  locations.foldr (fun location => .after (walk.reportAt? top location) (walk.pathAt location)) rest

theorem isOn_reportOpened {walk : Walk} {location : List Text} {opening : Opening} {report : FileReport}
    (given : walk.reportOpened location opening = some report) : report.IsOn (walk.displayAt location) := by
  unfold reportOpened at given
  split at given
  · cases given
    exact FileReport.isOn_failed _ _
  · dsimp only at given
    split at given
    · cases given
      exact FileReport.isOn_failed _ _
    · cases given
      exact FileReport.isOn_failed _ _
    next checked =>
      cases given
      exact Checker.isOn_of_run checked
  · cases given

theorem isOn_reportAt {walk : Walk} {top : FileNode} {location : List Text} {report : FileReport}
    (given : walk.reportAt? top location = some report) : report.IsOn (walk.displayAt location) := by
  unfold reportAt? at given
  split at given
  · obtain ⟨fault, _, rfl⟩ := Option.map_eq_some_iff.mp given
    exact FileReport.isOn_failed _ _
  · exact isOn_reportOpened given

theorem reportOpened_eq_none_iff {walk : Walk} {location : List Text} {opening : Opening} :
    walk.reportOpened location opening = none ↔ opening = .waiting := by
  cases opening with
  | failed | waiting => simp [reportOpened]
  | opened content broken unclosed =>
    refine iff_of_false ?_ nofun
    unfold reportOpened
    dsimp only
    split <;> exact Option.some_ne_none _

theorem mem_inTurn {walk : Walk} {top : FileNode} {locations : List (List Text)} {report : FileReport}
    {ending : Option ScanFailure} (member : report ∈ (walk.inTurn top locations ⟨[], ending⟩).reports) :
    ∃ location ∈ locations, walk.reportAt? top location = some report := by
  induction locations with
  | nil => cases member
  | cons location rest ih =>
    rw [inTurn, List.foldr_cons] at member
    cases given : walk.reportAt? top location with
    | none =>
      rw [given] at member
      cases member
    | some first =>
      rw [given] at member
      rcases List.mem_cons.mp member with rfl | later
      · exact ⟨location, List.mem_cons_self, given⟩
      · obtain ⟨other, there, same⟩ := ih later
        exact ⟨other, List.mem_cons_of_mem _ there, same⟩

/-- What is to be reported at and below a location, seen from what stands there. -/
structure DueFrom (walk : Walk) (top : FileNode) (here : List Text) (node : FileNode) (below : List Text) : Prop where
  reported : ∃ inner, node.at? below = some inner ∧ walk.Reports top (here ++ below) inner
  shown : ∀ above name, above ++ [name] <+: below → walk.Shows top (here ++ above) name

/-- What is to be reported below the entries of a directory. -/
def DueInside (walk : Walk) (top : FileNode) (here : List Text) (entries : List (Text × FileNode)) : List Text → Prop
  | [] => False
  | name :: rest => ∃ next, entries.lookup name = some next ∧ walk.DueFrom top (here ++ [name]) next rest

section

variable {walk : Walk} {top : FileNode} {here : List Text}

theorem dueFrom_nil {node : FileNode} : walk.DueFrom top here node [] ↔ walk.Reports top here node := by
  constructor
  · rintro ⟨⟨inner, found, reported⟩, _⟩
    cases found
    rwa [List.append_nil] at reported
  · intro reported
    refine ⟨⟨node, rfl, by rwa [List.append_nil]⟩, fun above name shorter => ?_⟩
    simp at shorter

theorem dueFrom_cons {entries : List (Text × FileNode)} {faults : NodeFaults} {name : Text} {rest : List Text} :
    walk.DueFrom top here (.directory entries faults) (name :: rest) ↔
      walk.Shows top here name ∧ walk.DueInside top here entries (name :: rest) := by
  constructor
  · rintro ⟨⟨inner, found, reported⟩, shown⟩
    obtain ⟨_, _, next, same, looked, inside⟩ := FileNode.at?_cons found
    cases same
    refine ⟨by simpa using shown [] name (by simp), next, looked, ⟨inner, inside, by simpa using reported⟩, ?_⟩
    intro above name' shorter
    simpa using shown (name :: above) name' (List.cons_prefix_cons.mpr ⟨rfl, shorter⟩)
  · rintro ⟨first, next, looked, ⟨inner, inside, reported⟩, shown⟩
    refine ⟨⟨inner, ?_, by simpa using reported⟩, fun above name' shorter => ?_⟩
    · rw [FileNode.at?_directory, looked]
      exact inside
    · cases above with
      | nil =>
        obtain ⟨rfl, _⟩ := List.cons_prefix_cons.mp shorter
        simpa using first
      | cons other above =>
        obtain ⟨rfl, within⟩ := List.cons_prefix_cons.mp shorter
        simpa using shown above name' within

theorem not_dueFrom_cons {node : FileNode} {name : Text} {rest : List Text} (leaf : node.isDirectory = false) :
    ¬ walk.DueFrom top here node (name :: rest) := by
  rintro ⟨⟨_, found, _⟩, _⟩
  obtain ⟨_, _, _, rfl, _⟩ := FileNode.at?_cons found
  cases leaf

theorem due_iff {location : List Text} : walk.Due top location ↔ location ≠ [] ∧ walk.DueFrom top [] top location :=
  ⟨fun ⟨below, reported, shown⟩ => ⟨below, reported, shown⟩, fun ⟨below, reported, shown⟩ => ⟨below, reported, shown⟩⟩

end

/-! ### Steps and locations -/

/-- The course of steps; it does not depend on the number of workers. -/
def course (walk : Walk) (steps : List WalkStep) : Scan.Course := Scan.course ⟨walk.workspace, walk.checker, 1⟩ steps

/-- The steps have the reports on the locations below one that are due, in their order, whatever comes after them. -/
def Covers (walk : Walk) (top : FileNode) (here : List Text) (steps : List WalkStep) (due : List Text → Prop) : Prop :=
  ∃ locations : List (List Text),
    (∀ rest, walk.course (steps ++ rest) = walk.inTurn top (locations.map (here ++ ·)) (walk.course rest)) ∧
      locations.Pairwise (· < ·) ∧ ∀ below, below ∈ locations ↔ due below

section

variable {walk : Walk} {top : FileNode} {here : List Text} {due due' : List Text → Prop} {steps steps' : List WalkStep}

theorem covers_nothing (passed : ∀ rest, walk.course (steps ++ rest) = walk.course rest) (none : ∀ below, ¬ due below) :
    walk.Covers top here steps due :=
  ⟨[], passed, .nil, fun below => by simp [none below]⟩

theorem covers_here
    (visited : ∀ rest, walk.course (steps ++ rest) =
      .after (walk.reportAt? top here) (walk.pathAt here) (walk.course rest))
    (only : ∀ below, due below ↔ below = []) : walk.Covers top here steps due := by
  refine ⟨[[]], fun rest => ?_, List.pairwise_singleton _ _, fun below => by simp [only below]⟩
  rw [visited]
  simp [inTurn]

theorem Covers.congr (covered : walk.Covers top here steps due) (same : ∀ below, due below ↔ due' below) :
    walk.Covers top here steps due' := by
  obtain ⟨locations, reported, ordered, members⟩ := covered
  exact ⟨locations, reported, ordered, fun below => (members below).trans (same below)⟩

theorem Covers.append (first : walk.Covers top here steps due) (second : walk.Covers top here steps' due')
    (before : ∀ location other, due location → due' other → location < other) :
    walk.Covers top here (steps ++ steps') fun below => due below ∨ due' below := by
  obtain ⟨locations, reported, ordered, members⟩ := first
  obtain ⟨others, reported', ordered', members'⟩ := second
  refine ⟨locations ++ others, fun rest => ?_, ?_, fun below => ?_⟩
  · rw [List.append_assoc, reported, reported', List.map_append]
    simp only [inTurn, List.foldr_append]
  · refine List.pairwise_append.mpr ⟨ordered, ordered', fun location member other later => ?_⟩
    exact before location other ((members location).mp member) ((members' other).mp later)
  · rw [List.mem_append, members, members']

/-- What is covered below an entry is covered below its directory. -/
theorem Covers.under {name : Text} (covered : walk.Covers top (here ++ [name]) steps due) :
    walk.Covers top here steps fun below => ∃ rest, below = name :: rest ∧ due rest := by
  obtain ⟨locations, reported, ordered, members⟩ := covered
  refine ⟨locations.map (name :: ·), fun rest => ?_, ?_, fun below => ?_⟩
  · rw [reported]
    simp [Function.comp_def]
  · rw [List.pairwise_map]
    exact ordered.imp fun less => List.cons_lt_cons_iff.mpr (.inr ⟨rfl, less⟩)
  · rw [List.mem_map]
    constructor
    · rintro ⟨rest, member, rfl⟩
      exact ⟨rest, rfl, (members rest).mp member⟩
    · rintro ⟨rest, rfl, wanted⟩
      exact ⟨rest, (members rest).mpr wanted, rfl⟩

theorem covers_pass {node : FileNode} (leaf : node.isDirectory = false) (unreported : ¬ walk.Reports top here node) :
    walk.Covers top here [.pass] (walk.DueFrom top here node) := by
  refine covers_nothing (fun _ => rfl) fun below due => ?_
  cases below with
  | nil => exact unreported (dueFrom_nil.mp due)
  | cons name rest => exact not_dueFrom_cons leaf due

/-- The steps of entries in the order of their names cover what each one's steps cover. -/
theorem covers_entries (due : Text → List Text → Prop) {items : List (Text × List WalkStep)}
    (increasing : items.Pairwise (·.1 < ·.1))
    (each : ∀ item ∈ items, walk.Covers top (here ++ [item.1]) item.2 (due item.1)) :
    walk.Covers top here (items.flatMap (·.2))
      fun below => ∃ name rest, below = name :: rest ∧ name ∈ items.map (·.1) ∧ due name rest := by
  induction items with
  | nil => exact covers_nothing (fun _ => rfl) (by simp)
  | cons item items ih =>
    obtain ⟨least, increasing⟩ := List.pairwise_cons.mp increasing
    obtain ⟨first, others⟩ := List.forall_mem_cons.mp each
    rw [List.flatMap_cons]
    -- The locations under the first entry come before all others, whatever follows their first name.
    refine (first.under.append (ih increasing others) ?_).congr fun below => ?_
    · rintro _ _ ⟨rest, rfl, _⟩ ⟨name, rest', rfl, named, _⟩
      obtain ⟨item', there, rfl⟩ := List.mem_map.mp named
      exact List.cons_lt_cons_iff.mpr (.inl (least item' there))
    · constructor
      · rintro (⟨rest, rfl, wanted⟩ | ⟨name, rest, rfl, named, wanted⟩)
        · exact ⟨item.1, rest, rfl, by simp, wanted⟩
        · exact ⟨name, rest, rfl, List.mem_cons_of_mem _ named, wanted⟩
      · rintro ⟨name, rest, rfl, named, wanted⟩
        rcases List.mem_cons.mp named with rfl | named
        · exact .inl ⟨rest, rfl, wanted⟩
        · exact .inr ⟨name, rest, rfl, named, wanted⟩

end

theorem mem_stepsIn {walk : Walk} {relative : Text} {entries : List (Text × FileNode)} {item : Text × List WalkStep}
    (member : item ∈ walk.stepsIn relative entries) :
    ∃ entry ∈ entries, item = (entry.1, walk.stepsAt (inside relative entry.1) entry.1 entry.2) := by
  induction entries with
  | nil =>
    rw [stepsIn] at member
    cases member
  | cons entry rest ih =>
    rw [stepsIn] at member
    rcases List.mem_cons.mp member with rfl | later
    · exact ⟨entry, List.mem_cons_self, rfl⟩
    · obtain ⟨other, there, same⟩ := ih later
      exact ⟨other, List.mem_cons_of_mem _ there, same⟩

theorem names_stepsIn (walk : Walk) (relative : Text) (entries : List (Text × FileNode)) :
    (walk.stepsIn relative entries).map (·.1) = entries.map (·.1) := by
  induction entries with
  | nil => rw [stepsIn]; rfl
  | cons entry rest ih => rw [stepsIn, List.map_cons, List.map_cons, ih]

theorem stepsIn_take (walk : Walk) (relative : Text) (entries : List (Text × FileNode)) (count : Nat) :
    (walk.stepsIn relative entries).take count = walk.stepsIn relative (entries.take count) := by
  induction entries generalizing count with
  | nil =>
    rw [List.take_nil, stepsIn]
    exact List.take_nil
  | cons entry rest ih =>
    cases count with
    | zero =>
      rw [List.take_zero, List.take_zero, stepsIn]
    | succ count => rw [stepsIn, List.take_succ_cons, List.take_succ_cons, stepsIn, ih]

section

variable {walk : Walk} {top : FileNode} {here : List Text} {entries : List (Text × FileNode)}

theorem covers_inOrder (distinct : (entries.map (·.1)).Nodup) (valid : ∀ name ∈ here, IsEntryName name)
    (each : ∀ entry ∈ entries, walk.Covers top (here ++ [entry.1])
      (walk.stepsAt (Text.join [Path.separator] (here ++ [entry.1])) entry.1 entry.2)
      (walk.DueFrom top (here ++ [entry.1]) entry.2)) :
    walk.Covers top here (inOrder (walk.stepsIn (Text.join [Path.separator] here) entries))
      (walk.DueInside top here entries) := by
  have distinct' : ((walk.stepsIn (Text.join [Path.separator] here) entries).map (·.1)).Nodup := by
    rwa [names_stepsIn]
  have sorted := Text.sortedByName_perm (walk.stepsIn (Text.join [Path.separator] here) entries)
  refine (covers_entries (fun name rest => walk.DueInside top here entries (name :: rest))
    (Text.sortedByName_increasing distinct') fun item member => ?_).congr fun below => ?_
  · obtain ⟨entry, there, rfl⟩ := mem_stepsIn (sorted.mem_iff.mp member)
    rw [inside_join valid]
    refine (each entry there).congr fun rest => ?_
    simp only [DueInside, lookup_of_mem distinct there, Option.some.injEq, exists_eq_left']
  · cases below with
    | nil => exact iff_of_false (by simp) id
    | cons name rest =>
      constructor
      · rintro ⟨_, _, same, _, due⟩
        cases same
        exact due
      · rintro ⟨next, looked, due⟩
        have named : name ∈ entries.map (·.1) := List.mem_map_of_mem (mem_of_lookup looked)
        refine ⟨name, rest, rfl, ?_, next, looked, due⟩
        rwa [(sorted.map (·.1)).mem_iff, names_stepsIn]

theorem dueInside_iff_of_initial {listed : List (Text × FileNode)} (distinct : (entries.map (·.1)).Nodup)
    (seen : listed <+: entries) {name : Text} {rest : List Text} :
    walk.DueInside top here listed (name :: rest) ↔
      name ∈ listed.map (·.1) ∧ walk.DueInside top here entries (name :: rest) := by
  have distinct' : (listed.map (·.1)).Nodup := distinct.sublist (seen.sublist.map _)
  constructor
  · rintro ⟨next, looked, due⟩
    have member := mem_of_lookup looked
    exact ⟨List.mem_map_of_mem member, next, lookup_of_mem distinct (seen.subset member), due⟩
  · rintro ⟨named, next, looked, due⟩
    obtain ⟨⟨_, other⟩, member, rfl⟩ := List.mem_map.mp named
    cases (lookup_of_mem distinct (seen.subset member)).symm.trans looked
    exact ⟨_, lookup_of_mem distinct' member, due⟩

end

theorem listing_initial (entries : List (Text × FileNode)) (faults : NodeFaults) :
    (FileNode.directory entries faults).listing.entries <+: entries := by
  rw [FileNode.listing]
  split
  · exact List.nil_prefix
  · exact List.take_prefix _ _
  · exact List.prefix_refl _

namespace Rooted

variable {walk : Walk} {here : List Text} {entries : List (Text × FileNode)} {faults : NodeFaults}

/-- The listing that a walk makes of a directory, said of the tree. -/
theorem listing_eq (rooted : walk.Rooted entries faults) (nonempty : here ≠ [])
    {inner : List (Text × FileNode)} {own : NodeFaults}
    (there : (FileNode.directory entries faults).at? here = some (.directory inner own)) :
    walk.workspace.listing (walk.absolute (Text.join [Path.separator] here)) =
        walk.listingAt (.directory entries faults) here ∧
      (walk.listingAt (.directory entries faults) here).entries <+: inner := by
  have listed := rooted.listing_pathAt nonempty there rfl
  have same : walk.workspace.listing (walk.pathAt here) = walk.listingAt (.directory entries faults) here := by
    rw [listed, listingAt, there]
    exact (if_neg nonempty).symm
  refine ⟨same, ?_⟩
  rw [← same, listed]
  cases walk.wayFault? (.directory entries faults) here with
  | none => exact listing_initial inner own
  | some fault => exact List.nil_prefix

/-- The report on what is no directory, said of its path. -/
theorem reportAt?_leaf (rooted : walk.Rooted entries faults) (nonempty : here ≠ []) {node : FileNode}
    (there : (FileNode.directory entries faults).at? here = some node) (leaf : node.isDirectory = false) :
    walk.reportAt? (.directory entries faults) here =
      walk.reportOpened here (walk.workspace.opening (walk.pathAt here)) := by
  have opened : walk.openingAt (.directory entries faults) here = walk.workspace.opening (walk.pathAt here) := by
    rw [openingAt, there]
    cases node with
    | link target => rfl
    | directory _ _ => cases leaf
    | file _ _ | pipe _ => exact (rooted.opening_pathAt nonempty there rfl).symm
  rw [reportAt?, there, ← opened]
  cases node with
  | directory _ _ => cases leaf
  | _ => rfl

theorem reportOf_eq (rooted : walk.Rooted entries faults) (nonempty : here ≠ []) {node : FileNode}
    (there : (FileNode.directory entries faults).at? here = some node) (leaf : node.isDirectory = false) :
    Scan.reportOf ⟨walk.workspace, walk.checker, 1⟩
        { path := walk.pathAt here, display := walk.displayAt here } =
      walk.reportAt? (.directory entries faults) here := by
  rw [rooted.reportAt?_leaf nonempty there leaf]
  simp only [Scan.reportOf, Scan.report, Scan.attempt, Bool.false_eq_true, if_false]
  cases walk.workspace.opening (walk.pathAt here) with
  | failed fault => rfl
  | waiting => rfl
  | opened content broken unclosed =>
    simp only [Option.map_some, Scan.examine, reportOpened]
    cases checked : walk.checker.run (walk.displayAt here)
        ⟨content, broken.map fun fault => AccessFault.message ⟨.reading, fault⟩ (walk.pathAt here)⟩ with
    | error error => rfl
    | ok report =>
      cases unclosed with
      | some fault => rfl
      | none =>
        simp only [Scan.conclude]
        rw [← (Checker.isOn_of_run checked).path]

theorem covers_visit (rooted : walk.Rooted entries faults) (nonempty : here ≠ []) {node : FileNode}
    (there : (FileNode.directory entries faults).at? here = some node) (leaf : node.isDirectory = false)
    (reports : walk.Reports (.directory entries faults) here node ↔
      walk.checker.accepts (walk.pathAt here) = true) :
    walk.Covers (.directory entries faults) here [walk.visit (Text.join [Path.separator] here)]
      (walk.DueFrom (.directory entries faults) here node) := by
  rw [visit]
  split
  case isTrue accepted =>
    refine covers_here (fun rest => ?_) fun below => ?_
    · rw [← rooted.reportOf_eq nonempty there leaf]
      rfl
    · cases below with
      | nil => exact iff_of_true (dueFrom_nil.mpr (reports.mpr accepted)) rfl
      | cons name rest => exact iff_of_false (not_dueFrom_cons leaf) nofun
  case isFalse refused => exact covers_pass leaf (mt reports.mp refused)

/-- A directory that cannot be listed is visited itself. -/
theorem covers_visitUnlisted {inner : List (Text × FileNode)} {own : NodeFaults}
    (there : (FileNode.directory entries faults).at? here = some (.directory inner own)) :
    walk.Covers (.directory entries faults) here
      (.pass :: walk.visitUnlisted (Text.join [Path.separator] here)
        (walk.listingAt (.directory entries faults) here).fault)
      fun below => below = [] ∧ (walk.listingAt (.directory entries faults) here).fault ≠ none := by
  cases fault : (walk.listingAt (.directory entries faults) here).fault with
  | none => exact covers_nothing (fun _ => rfl) (by simp)
  | some fault' =>
    refine covers_here (fun rest => ?_) (by simp)
    rw [reportAt?, there]
    simp only [fault]
    rfl

theorem covers_skip {inner : List (Text × FileNode)} {own : NodeFaults} (skipped : ¬ walk.Unskipped here)
    (path : Text) :
    walk.Covers (.directory entries faults) here [.skip path]
      (walk.DueFrom (.directory entries faults) here (.directory inner own)) := by
  refine covers_nothing (fun _ => rfl) fun below due => ?_
  cases below with
  | nil => exact skipped (dueFrom_nil.mp due).1
  | cons first rest => exact skipped (dueFrom_cons.mp due).1.1

/-- A directory that is not skipped comes before what is due below those of its entries that were seen. -/
theorem covers_enter {inner : List (Text × FileNode)} {own : NodeFaults} {steps : List WalkStep}
    (there : (FileNode.directory entries faults).at? here = some (.directory inner own))
    (unskipped : walk.Unskipped here) (distinct : (inner.map (·.1)).Nodup)
    (seen : (walk.listingAt (.directory entries faults) here).entries <+: inner)
    (inside : walk.Covers (.directory entries faults) here steps
      (walk.DueInside (.directory entries faults) here (walk.listingAt (.directory entries faults) here).entries)) :
    walk.Covers (.directory entries faults) here
      (.pass :: walk.visitUnlisted (Text.join [Path.separator] here)
        (walk.listingAt (.directory entries faults) here).fault ++ steps)
      (walk.DueFrom (.directory entries faults) here (.directory inner own)) := by
  refine ((covers_visitUnlisted there).append inside ?_).congr fun below => ?_
  · rintro _ other ⟨rfl, _⟩ later
    cases other with
    | nil => exact later.elim
    | cons first rest => exact List.nil_lt_cons _ _
  · cases below with
    | nil =>
      constructor
      · rintro (⟨-, broken⟩ | impossible)
        · exact dueFrom_nil.mpr ⟨unskipped, broken⟩
        · exact impossible.elim
      · exact fun due => .inl ⟨rfl, (dueFrom_nil.mp due).2⟩
    | cons first rest =>
      rw [dueFrom_cons, Shows, dueInside_iff_of_initial distinct seen]
      simp [unskipped]

/-- The steps at a location cover what is due there and below, by induction on the tree. -/
theorem covers_stepsAt (rooted : walk.Rooted entries faults) {node : FileNode} (wellFormed : node.WellFormed)
    {name : Text} (last : here.getLast? = some name)
    (there : (FileNode.directory entries faults).at? here = some node) :
    walk.Covers (.directory entries faults) here (walk.stepsAt (Text.join [Path.separator] here) name node)
      (walk.DueFrom (.directory entries faults) here node) := by
  have nonempty {here : List Text} {name : Text} (last : here.getLast? = some name) : here ≠ [] := by
    rintro rfl
    cases last
  induction wellFormed generalizing here name with
  | file content own =>
    rw [stepsAt]
    exact rooted.covers_visit (nonempty last) there rfl Iff.rfl
  | link target =>
    rw [stepsAt]
    split
    case isTrue leads =>
      refine covers_pass rfl fun reported => ?_
      rw [Reports, pathAt, leads] at reported
      cases reported.1
    case isFalse elsewhere =>
      rw [Bool.not_eq_true] at elsewhere
      exact rooted.covers_visit (nonempty last) there rfl
        ⟨fun reported => reported.2, fun accepted => ⟨elsewhere, accepted⟩⟩
  | pipe own =>
    rw [stepsAt]
    exact covers_pass rfl id
  | @directory inner own distinct named deeper ih =>
    rw [stepsAt]
    split
    case isTrue skipped =>
      refine covers_skip (fun unskipped => ?_) _
      rw [unskipped name last] at skipped
      cases skipped
    case isFalse entered =>
      have unskipped : walk.Unskipped here := by
        intro other same
        cases last.symm.trans same
        simpa using entered
      obtain ⟨listed, seen⟩ := rooted.listing_eq (nonempty last) there
      have valid := rooted.top_wellFormed.isEntryName there
      simp only [listed]
      rw [stepsIn_take, ← List.prefix_iff_eq_take.mp seen]
      refine covers_enter there unskipped distinct seen ?_
      refine covers_inOrder (distinct.sublist (seen.sublist.map _)) valid fun entry member => ?_
      refine ih entry (seen.subset member) List.getLast?_concat ?_
      rw [FileNode.at?_append there, FileNode.at?_directory, lookup_of_mem distinct (seen.subset member)]
      rfl

/-- The steps of a walk cover what is due, if its root can be listed. -/
theorem covers_steps (rooted : walk.Rooted entries faults)
    (listed : (FileNode.directory entries faults).listing.fault = none) :
    walk.Covers (.directory entries faults) [] walk.steps (walk.Due (.directory entries faults)) := by
  have all : (FileNode.directory entries faults).listing.entries = entries := by
    rw [FileNode.listing] at listed ⊢
    split at listed
    · cases listed
    · cases listed
    · rfl
  cases rooted.top_wellFormed with
  | directory distinct named inner =>
    have inside : walk.Covers (.directory entries faults) [] (inOrder (walk.stepsIn [] entries))
        (walk.DueInside (.directory entries faults) [] entries) := by
      refine covers_inOrder distinct (List.forall_mem_nil _) fun entry member => ?_
      refine rooted.covers_stepsAt (inner entry member) List.getLast?_concat ?_
      rw [List.nil_append, FileNode.at?_directory, lookup_of_mem distinct member]
      rfl
    have nothing : walk.Covers (.directory entries faults) [] [.pass] fun _ => False :=
      covers_nothing (fun _ => rfl) (by simp)
    have steps : walk.steps = [.pass] ++ inOrder (walk.stepsIn [] entries) := by
      rw [Walk.steps, rooted.there, rooted.listing_root, listed]
      rfl
    rw [steps]
    refine (nothing.append inside fun _ _ impossible _ => impossible.elim).congr fun below => ?_
    rw [due_iff]
    cases below with
    | nil => simp [DueInside]
    | cons first rest =>
      have shown : walk.Shows (.directory entries faults) [] first ↔ first ∈ entries.map (·.1) := by
        simp [Shows, Unskipped, listingAt, FileNode.at?, all]
      rw [dueFrom_cons, shown]
      constructor
      · rintro (impossible | due)
        · exact impossible.elim
        · obtain ⟨next, looked, inside⟩ := due
          exact ⟨List.cons_ne_nil _ _, List.mem_map_of_mem (mem_of_lookup looked), next, looked, inside⟩
      · rintro ⟨_, _, due⟩
        exact .inr due

/-- A location that is due is waited for without an end exactly if its path leads to a pipe that can be opened. -/
theorem reportAt?_eq_none_iff (rooted : walk.Rooted entries faults)
    (due : walk.Due (.directory entries faults) here) :
    walk.reportAt? (.directory entries faults) here = none ↔
      ∃ own : NodeFaults, walk.workspace.stat (walk.pathAt here) = .ok (.pipe own) ∧ own.opening = none := by
  obtain ⟨nonempty, ⟨node, there, reported⟩, _⟩ := due
  cases leaf : node.isDirectory with
  | false =>
    rw [rooted.reportAt?_leaf nonempty there leaf, reportOpened_eq_none_iff]
    exact walk.workspace.opening_eq_waiting_iff _
  | true =>
    cases node with
    | directory inner own =>
      refine iff_of_false ?_ ?_
      · rw [reportAt?, there]
        simpa using reported.2
      · rintro ⟨_, pipe, _⟩
        rw [rooted.stat_pathAt nonempty there rfl] at pipe
        split at pipe <;> cases pipe
    | _ => cases leaf

theorem steps_unlisted (rooted : walk.Rooted entries faults) {fault : AccessFault}
    (unlisted : (FileNode.directory entries faults).listing.fault = some fault) :
    walk.steps = [.pass, .fail walk.root fault] := by
  rw [steps, rooted.there, rooted.listing_root, unlisted]

end Rooted

end Walk

/-! ### The scan of a directory -/

namespace Scan

variable {σ : Type}

/-- The walk that the scan of a target makes. -/
def walkOf (scan : Scan) (target : Text) : Walk :=
  ⟨scan.workspace, scan.checker, Path.absolute scan.workspace.path (Text.trim target), Text.trim target⟩

theorem course_eq (scan : Scan) (steps : List WalkStep) (path given : Text) :
    scan.course steps = Walk.course ⟨scan.workspace, scan.checker, path, given⟩ steps := by
  rw [Walk.course]
  induction steps with
  | nil => rfl
  | cons step rest ih =>
    cases step with
    | visit task =>
      rw [course, course, ih]
      rfl
    | fail => rfl
    | pass | skip => exact ih

theorem outcome_directory (scan : Scan) (positive : 0 < scan.workers) {receive : Receiver σ} (quiet : Quiet receive)
    {progress : ScanProgress σ} (uncancelled : progress.cancelled = false) (path given : Text) :
    Outcome.of (scan.directory receive progress path given) =
      (scan.course (Walk.steps ⟨scan.workspace, scan.checker, path, given⟩)).outcome receive progress.state
        progress.summary := by
  unfold directory
  dsimp only
  have logged : (progress.logging (scan.startedEntry path)).cancelled = false := uncancelled
  split
  case isTrue => exact scan.outcome_inSequence quiet logged _
  case isFalse => exact ParallelScan.outcome_inParallel scan positive quiet _ logged _

/-- The scan of a directory takes the reports on the files that its walk visits, in order. -/
theorem outcome_run (scan : Scan) (positive : 0 < scan.workers) {receive : Receiver σ} (taking : Taking receive)
    (state : σ) (log : List LogEntry) {target : Text} (named : Text.trim target ≠ [])
    {entries : List (Text × FileNode)} {faults : NodeFaults} (rooted : (scan.walkOf target).Rooted entries faults) :
    Outcome.of (scan.run receive { state, log } target) =
      .taking receive state {} ((scan.walkOf target).course (scan.walkOf target).steps) := by
  have given : (Text.trim target).isEmpty = false := by simpa using named
  have found : scan.workspace.stat (Path.absolute scan.workspace.path (Text.trim target)) =
      .ok (.directory entries faults) := rooted.stat_root
  simp only [run, given, found, Bool.false_eq_true, if_false]
  rw [scan.outcome_directory positive taking.quiet rfl, taking.outcome_eq, scan.course_eq _ _ (Text.trim target)]
  rfl

theorem outcome_run_listed (scan : Scan) (positive : 0 < scan.workers) {receive : Receiver σ} (taking : Taking receive)
    (state : σ) (log : List LogEntry) {target : Text} (named : Text.trim target ≠ [])
    {entries : List (Text × FileNode)} {faults : NodeFaults} (rooted : (scan.walkOf target).Rooted entries faults)
    (listed : (FileNode.directory entries faults).listing.fault = none) :
    ∃ locations : List (List Text),
      (∀ location, location ∈ locations ↔ (scan.walkOf target).Due (.directory entries faults) location) ∧
      locations.Pairwise (· < ·) ∧
      Outcome.of (scan.run receive { state, log } target) =
        .taking receive state {} ((scan.walkOf target).inTurn (.directory entries faults) locations ⟨[], none⟩) := by
  obtain ⟨locations, reported, ordered, members⟩ := rooted.covers_steps listed
  refine ⟨locations, members, ordered, ?_⟩
  have course := reported []
  simp only [List.append_nil, List.nil_append, List.map_id'] at course
  rw [scan.outcome_run positive taking state log named rooted, course]
  rfl

theorem outcome_run_unlisted (scan : Scan) (positive : 0 < scan.workers) {receive : Receiver σ}
    (taking : Taking receive) (state : σ) (log : List LogEntry) {target : Text} (named : Text.trim target ≠ [])
    {entries : List (Text × FileNode)} {faults : NodeFaults} (rooted : (scan.walkOf target).Rooted entries faults)
    {fault : AccessFault} (unlisted : (FileNode.directory entries faults).listing.fault = some fault) :
    Outcome.of (scan.run receive { state, log } target) =
      ⟨state, {}, some (.unlisted (scan.walkOf target).root fault)⟩ := by
  rw [scan.outcome_run positive taking state log named rooted, rooted.steps_unlisted unlisted]
  rfl

/-- The locations under a directory are delivered by the scan of a target: those that are due, each once, in their order
and under a name of its own, as far as the first file whose opening does not end. A report is on its own path. -/
structure Delivers (scan : Scan) (receive : Receiver σ) (state : σ) (log : List LogEntry) (target : Text)
    (top : FileNode) (locations : List (List Text)) : Prop where
  due : ∀ location, location ∈ locations ↔ (scan.walkOf target).Due top location
  ordered : locations.Pairwise (· < ·)
  distinct : (locations.map (scan.walkOf target).displayAt).Nodup
  outcome : Outcome.of (scan.run receive { state, log } target) =
    .taking receive state {} ((scan.walkOf target).inTurn top locations ⟨[], none⟩)
  own : ∀ location ∈ locations, ∀ report, (scan.walkOf target).reportAt? top location = some report →
    report.IsOn ((scan.walkOf target).displayAt location)
  waits : ∀ location ∈ locations, (scan.walkOf target).reportAt? top location = none ↔
    ∃ faults : NodeFaults, scan.workspace.stat ((scan.walkOf target).pathAt location) = .ok (.pipe faults) ∧
      faults.opening = none

/-- The scan of a directory hands over one report for each location that is due, and nothing else. If the directory
itself cannot be listed, it reports nothing and fails. -/
theorem run_delivers_due (scan : Scan) (positive : 0 < scan.workers) (wellFormed : scan.workspace.root.WellFormed)
    {receive : Receiver σ} (taking : Taking receive) (state : σ) (log : List LogEntry) (target : Text)
    (named : Text.trim target ≠ []) (entries : List (Text × FileNode)) (faults : NodeFaults)
    (directory : scan.workspace.entry (scan.walkOf target).root = .ok (.directory entries faults)) :
    ((FileNode.directory entries faults).listing.fault = none →
        ∃ locations, scan.Delivers receive state log target (.directory entries faults) locations) ∧
      ∀ fault, (FileNode.directory entries faults).listing.fault = some fault →
        Outcome.of (scan.run receive { state, log } target) =
          ⟨state, {}, some (.unlisted (scan.walkOf target).root fault)⟩ := by
  have rooted : (scan.walkOf target).Rooted entries faults := ⟨wellFormed, directory⟩
  refine ⟨fun listed => ?_, fun fault unlisted =>
    scan.outcome_run_unlisted positive taking state log named rooted unlisted⟩
  obtain ⟨locations, members, ordered, outcome⟩ :=
    scan.outcome_run_listed positive taking state log named rooted listed
  have valid : ∀ location ∈ locations, ∀ name ∈ location, IsEntryName name := by
    intro location member
    obtain ⟨node, found, _⟩ := ((members location).mp member).reported
    exact rooted.top_wellFormed.isEntryName found
  exact ⟨locations,
    { due := members
      ordered := ordered
      distinct := by
        refine List.pairwise_map.mpr (ordered.imp_of_mem fun first second less same => ?_)
        rw [Walk.displayAt_injective _ (valid _ first) (valid _ second) same] at less
        exact List.lt_irrefl _ less
      outcome := outcome
      own := fun location _ report given => Walk.isOn_reportAt given
      waits := fun location member => rooted.reportAt?_eq_none_iff ((members location).mp member) }⟩

/-- A tree with everything that a walk meets: an excluded directory, links to a file, to a directory, to a pipe and to
nothing, a pipe, a directory that cannot be opened and one that cannot be read to its end. -/
def mixedTree : FileNode :=
  .directory
    [("b.cs", .file "x"), ("a", .directory [("c.cs", .file []), ("bin", .directory [("d.cs", .file [])])]),
      ("f.cs", .link "b.cs"), ("g.cs", .link "nowhere"), ("h.cs", .link "a"), ("p.cs", .pipe), ("q.cs", .link "p.cs"),
      ("r", .directory [("i.cs", .file [])] { opening := some .denied }),
      ("s", .directory [("k.cs", .file []), ("j.cs", .file [])] { reading := some (1, .inputOutput) })]

theorem wellFormed_mixedTree : mixedTree.WellFormed := by
  have bin : (FileNode.directory [("d.cs", .file [])]).WellFormed :=
    .directory (by decide) (by decide) (by simpa using .file [] {})
  have a : (FileNode.directory [("c.cs", .file []), ("bin", .directory [("d.cs", .file [])])]).WellFormed :=
    .directory (by decide) (by decide) (by simpa using ⟨.file [] {}, bin⟩)
  have closed : (FileNode.directory [("i.cs", .file [])] { opening := some .denied }).WellFormed :=
    .directory (by decide) (by decide) (by simpa using .file [] {})
  have broken : (FileNode.directory [("k.cs", .file []), ("j.cs", .file [])]
      { reading := some (1, .inputOutput) }).WellFormed :=
    .directory (by decide) (by decide) (by simpa using .file [] {})
  refine .directory (by decide) (by decide) ?_
  simpa using ⟨.file _ _, a, .link _, .link _, .link _, .pipe _, .link _, closed, broken⟩

/-- Two workers scan a mixed tree, and a directory that cannot be opened. -/
theorem run_delivers_mixed_tree :
    (∃ locations, Delivers ⟨⟨.directory [("w", mixedTree)], []⟩, .lines {}, 2⟩ (ParallelScan.recording fun _ => none)
        [] [] " /w/./ " mixedTree locations) ∧
      Outcome.of (run ⟨⟨.directory [("w", .directory [] { opening := some .denied })], []⟩, .lines {}, 2⟩
        (ParallelScan.recording fun _ => none) { state := [], log := [] } "/w") =
        ⟨[], {}, some (.unlisted "/w" ⟨.opening, .denied⟩)⟩ := by
  have taking : Taking (ParallelScan.recording fun _ => none) := ⟨fun _ _ => rfl, fun _ _ => rfl⟩
  have mixed : (FileNode.directory [("w", mixedTree)]).WellFormed :=
    .directory (by decide) (by decide) (List.forall_mem_singleton.mpr wellFormed_mixedTree)
  have closed : (FileNode.directory [("w", .directory [] { opening := some .denied })]).WellFormed :=
    .directory (by decide) (by decide) (List.forall_mem_singleton.mpr (.directory (by decide) (by decide) (by simp)))
  exact ⟨(run_delivers_due _ (by decide) mixed taking [] [] _ (by decide) _ _ rfl).1 rfl,
    (run_delivers_due _ (by decide) closed taking [] [] _ (by decide) _ _ rfl).2 _ rfl⟩

/-! ### Files under a path that is too long -/

theorem taking_recording : Taking (ParallelScan.recording fun _ => none) := ⟨fun _ _ => rfl, fun _ _ => rfl⟩

theorem state_recording (received : List FileReport) (summary : Summary) (course : Course) :
    (Outcome.taking (ParallelScan.recording fun _ => none) received summary course).state =
      received ++ course.reports :=
  ParallelScan.keeping_recording.foldl_eq received course.reports

theorem due_of_mem_recorded (scan : Scan) (positive : 0 < scan.workers) {target : Text}
    (named : Text.trim target ≠ []) {entries : List (Text × FileNode)} {faults : NodeFaults}
    (rooted : (scan.walkOf target).Rooted entries faults)
    (listed : (FileNode.directory entries faults).listing.fault = none) {report : FileReport}
    (member : report ∈ (scan.run (ParallelScan.recording fun _ => none) { state := [] } target).1.state) :
    ∃ location, (scan.walkOf target).Due (.directory entries faults) location ∧
      (scan.walkOf target).reportAt? (.directory entries faults) location = some report := by
  obtain ⟨locations, members, _, outcome⟩ :=
    scan.outcome_run_listed positive taking_recording [] [] named rooted listed
  have delivered := congrArg Outcome.state outcome
  rw [state_recording, List.nil_append] at delivered
  rw [show (scan.run (ParallelScan.recording fun _ => none) { state := [] } target).1.state = _ from delivered]
    at member
  obtain ⟨location, there, given⟩ := Walk.mem_inTurn member
  exact ⟨location, (members location).mp there, given⟩

/-- Directories of one name inside each other, around a node. -/
def nested (name : Text) (node : FileNode) : Nat → FileNode
  | 0 => node
  | depth + 1 => .directory [(name, nested name node depth)]

theorem at?_nested (name : Text) (node : FileNode) (depth : Nat) (more : List Text) :
    (nested name node depth).at? (List.replicate depth name ++ more) = node.at? more := by
  induction depth with
  | zero => rfl
  | succ depth ih =>
    rw [nested, List.replicate_succ, List.cons_append, FileNode.at?_directory, List.lookup_cons_self]
    exact ih

theorem wellFormed_nested {name : Text} (valid : IsEntryName name) {node : FileNode} (wellFormed : node.WellFormed)
    (depth : Nat) : (nested name node depth).WellFormed := by
  induction depth with
  | zero => exact wellFormed
  | succ depth ih => exact .directory (by simp) (by simpa using valid) (by simpa using ih)

/-- A file that the check accepts, under directories that it does not skip, has no report when the path of one of them
is too long. -/
theorem file_under_long_path_unreported :
    ∃ (scan : Scan) (target : Text) (entries : List (Text × FileNode)) (location : List Text),
      0 < scan.workers ∧ scan.workspace.root.WellFormed ∧ Text.trim target ≠ [] ∧
      scan.workspace.entry (scan.walkOf target).root = .ok (.directory entries) ∧
      (FileNode.directory entries).at? location = some (.file []) ∧
      scan.checker.accepts ((scan.walkOf target).pathAt location) = true ∧
      (∀ name ∈ location.dropLast, scan.checker.skipsDirectory name = false) ∧
      ∀ report ∈ (scan.run (ParallelScan.recording fun _ => none) { state := [] } target).1.state,
        report.path ≠ (scan.walkOf target).displayAt location := by
  let name : Text := List.replicate Resolution.maximumName (Text.byte 's')
  let bottom : FileNode := .directory [("b.cs", .file [])]
  let scan : Scan := ⟨⟨nested name bottom 16, []⟩, .lines {}, 1⟩
  let location : List Text := List.replicate 16 name ++ [Text.ofString "b.cs"]
  have wellFormed : scan.workspace.root.WellFormed :=
    wellFormed_nested (by decide +kernel) (.directory (by decide) (by decide) (by simpa using .file [] {})) 16
  have rooted : (scan.walkOf "/").Rooted [(name, nested name bottom 15)] {} := ⟨wellFormed, rfl⟩
  have found : (nested name bottom 16).at? location = some (.file []) :=
    at?_nested name bottom 16 [Text.ofString "b.cs"]
  refine ⟨scan, "/", [(name, nested name bottom 15)], location, by decide, wellFormed, by decide, rfl, found,
    by decide +kernel, by decide +kernel, fun report member same => ?_⟩
  obtain ⟨other, due, given⟩ := due_of_mem_recorded scan (by decide) (by decide) rooted rfl member
  rw [(Walk.isOn_reportAt given).path] at same
  obtain ⟨_, there, _⟩ := due.reported
  have equal : other = location :=
    Walk.displayAt_injective _ (rooted.top_wellFormed.isEntryName there) (wellFormed.isEntryName found) same
  -- The path of the sixteenth directory has one byte too many, so nothing is seen there.
  have shown := (due.shown (List.replicate 16 name) (Text.ofString "b.cs") (equal ▸ List.prefix_refl _)).2
  have bottomless : (nested name bottom 16).at? (List.replicate 16 name) = some bottom := by
    have whole := at?_nested name bottom 16 []
    rwa [List.append_nil] at whole
  have long : ¬ (scan.walkOf "/").Short (List.replicate 16 name) := by decide +kernel
  have unseen : ((scan.walkOf "/").listingAt (nested name bottom 16) (List.replicate 16 name)).entries = [] := by
    rw [Walk.listingAt, bottomless, Walk.wayFault?, if_neg long]
    rfl
  rw [show FileNode.directory [(name, nested name bottom 15)] = nested name bottom 16 from rfl, unseen] at shown
  cases shown

end Scan

end QualityGate
