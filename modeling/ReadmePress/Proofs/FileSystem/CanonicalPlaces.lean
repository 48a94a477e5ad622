import ReadmePress.Proofs.FileSystem.Standing

/-!
Where the canonical path of a path leads: to the place that the path itself leads to, as long as
all names on the way, those in the targets of links among them, are short enough together. Links
are resolved inside one another, and what each resolved to is remembered; a path that leads
somewhere never meets a link again while it is being resolved.
-/

namespace ReadmePress

open ReadmePress.Text

namespace Workspace

/-- The last of a partial path's names is a link, whose target leads to a place through more
links. -/
structure LeadsOn (workspace : Workspace) (path : PartialPath) (name target : String)
    (inner : List String) (place : Location) : Prop where
  isName : IsEntryName name
  isLink : ∃ here, workspace.Stands path here ∧
    workspace.files.entryAt? (here ++ [name]) = some (.link target) ∧
    Follows workspace.files (linkStart target here) (writtenNames target) inner place

theorem LeadsOn.unique {workspace : Workspace} {path : PartialPath} {name target other : String}
    {inner otherInner : List String} {place otherPlace : Location}
    (leads : workspace.LeadsOn path name target inner place)
    (same : workspace.LeadsOn path name other otherInner otherPlace) :
    other = target ∧ otherInner = inner ∧ otherPlace = place := by
  obtain ⟨here, stands, found, follows⟩ := leads.isLink
  obtain ⟨otherHere, otherStands, otherFound, otherFollows⟩ := same.isLink
  obtain rfl := stands.unique otherStands
  cases found.symm.trans otherFound
  exact ⟨rfl, follows.unique otherFollows⟩

/-- What is remembered of links is true: where a link led to, and that one that is still being
resolved has at least so many links on its way. -/
structure Recalls (workspace : Workspace) (due : Nat)
    (seen : List (PartialPath × Option PartialPath)) : Prop where
  known : ∀ path name result target inner place,
    OrderedMap.find? seen (path.child name) = some (some result) →
    workspace.LeadsOn path name target inner place →
    workspace.Stands result place ∧ (path.fromRoot = true → result.fromRoot = true) ∧
      namesBytes result.components ≤
        namesBytes path.components + (target.utf8ByteSize + 1) + namesBytes inner
  pending : ∀ path name target inner place,
    OrderedMap.find? seen (path.child name) = some none →
    workspace.LeadsOn path name target inner place → due ≤ inner.length

namespace Recalls

variable {workspace : Workspace} {due : Nat} {seen : List (PartialPath × Option PartialPath)}

theorem fewer (recalls : workspace.Recalls due seen) (less : Nat) (few : less ≤ due) :
    workspace.Recalls less seen where
  known := recalls.known
  pending := fun path name target inner place found leads =>
    Nat.le_trans few (recalls.pending path name target inner place found leads)

/-- A link whose resolution begins has all the links of its target due. -/
theorem begin (recalls : workspace.Recalls due seen) {path : PartialPath} {name target : String}
    {inner : List String} {place : Location}
    (leads : workspace.LeadsOn path name target inner place) (few : inner.length ≤ due) :
    workspace.Recalls inner.length (OrderedMap.put seen (path.child name) none) := by
  constructor
  case known =>
    intro other otherName result otherTarget otherInner otherPlace found otherLeads
    rw [OrderedMap.find?_put] at found
    split at found
    · simp at found
    · exact recalls.known other otherName result otherTarget otherInner otherPlace found otherLeads
  case pending =>
    intro other otherName otherTarget otherInner otherPlace found otherLeads
    rw [OrderedMap.find?_put] at found
    split at found
    next same =>
      obtain ⟨rfl, rfl⟩ := PartialPath.child_injective _ _ _ _ same
      obtain ⟨-, rfl, -⟩ := leads.unique otherLeads
      exact Nat.le_refl _
    next =>
      exact Nat.le_trans few
        (recalls.pending other otherName otherTarget otherInner otherPlace found otherLeads)

end Recalls

/-- How a resolution goes on after names that lead to a place. -/
structure ResolvesTo (workspace : Workspace) (path result : PartialPath) (place : Location)
    (bytes : Nat) (seen after : List (PartialPath × Option PartialPath)) : Prop where
  stands : workspace.Stands result place
  rooted : path.fromRoot = true → result.fromRoot = true
  fits : namesBytes result.components ≤ namesBytes path.components + bytes
  recalls : workspace.Recalls 0 after
  noMore : ∀ entry, OrderedMap.find? after entry = some none →
    OrderedMap.find? seen entry = some none

/-- A link that has been resolved is remembered with where it led to. -/
theorem Recalls.finish {workspace : Workspace} {due : Nat}
    {seen after : List (PartialPath × Option PartialPath)} (recalls : workspace.Recalls due seen)
    {path start known : PartialPath} {name target : String} {inner : List String}
    {middle : Location} (leads : workspace.LeadsOn path name target inner middle)
    (startRooted : path.fromRoot = true → start.fromRoot = true)
    (startBytes : namesBytes start.components ≤ namesBytes path.components)
    (resolved : workspace.ResolvesTo start known middle
      (namesBytes (writtenNames target) + namesBytes inner)
      (OrderedMap.put seen (path.child name) none) after) :
    workspace.Recalls due (OrderedMap.put after (path.child name) (some known)) := by
  have writtenBytes := written_names_bytes target
  have knownBytes := resolved.fits
  constructor
  case known =>
    intro other otherName result otherTarget otherInner otherPlace found otherLeads
    rw [OrderedMap.find?_put] at found
    split at found
    next same =>
      obtain ⟨rfl, rfl⟩ := PartialPath.child_injective _ _ _ _ same
      obtain ⟨rfl, rfl, rfl⟩ := leads.unique otherLeads
      obtain rfl : known = result := by simpa using found
      exact ⟨resolved.stands, fun isRooted => resolved.rooted (startRooted isRooted), by omega⟩
    next =>
      exact resolved.recalls.known other otherName result otherTarget otherInner otherPlace found
        otherLeads
  case pending =>
    intro other otherName otherTarget otherInner otherPlace found otherLeads
    rw [OrderedMap.find?_put] at found
    split at found
    next => simp at found
    next different =>
      have before := resolved.noMore _ found
      rw [OrderedMap.find?_put, if_neg different] at before
      exact recalls.pending other otherName otherTarget otherInner otherPlace before otherLeads

namespace ResolvesTo

variable {workspace : Workspace} {path onward result : PartialPath} {place : Location}
  {bytes total : Nat} {seen earlier after : List (PartialPath × Option PartialPath)}

/-- A resolution that goes on from another path is one from the path before it. -/
theorem before (resolved : workspace.ResolvesTo onward result place bytes seen after)
    (rooted : path.fromRoot = true → onward.fromRoot = true)
    (fits : namesBytes onward.components + bytes ≤ namesBytes path.components + total)
    (older : ∀ entry, OrderedMap.find? seen entry = some none →
      OrderedMap.find? earlier entry = some none) :
    workspace.ResolvesTo path result place total earlier after where
  stands := resolved.stands
  rooted := fun isRooted => resolved.rooted (rooted isRooted)
  fits := Nat.le_trans resolved.fits fits
  recalls := resolved.recalls
  noMore := fun entry unresolved => older entry (resolved.noMore entry unresolved)

/-- A link that has been resolved meanwhile is not left unresolved. -/
theorem without {entry known : PartialPath}
    (resolved : workspace.ResolvesTo path result place bytes (OrderedMap.put seen entry none) after)
    (other : PartialPath)
    (unresolved : OrderedMap.find? (OrderedMap.put after entry (some known)) other = some none) :
    OrderedMap.find? seen other = some none := by
  rw [OrderedMap.find?_put] at unresolved
  split at unresolved
  next => simp at unresolved
  next different =>
    have unresolvedBefore := resolved.noMore other unresolved
    rwa [OrderedMap.find?_put, if_neg different] at unresolvedBefore

end ResolvesTo

section Steps

variable (workspace : Workspace) (depth : Nat) (path : PartialPath) (name : String)
  (rest : List String) (seen : List (PartialPath × Option PartialPath))

theorem resolve_names_skip (means : name = "" ∨ name = ".") :
    workspace.resolveNames depth path (name :: rest) seen =
      workspace.resolveNames depth path rest seen := by
  rw [resolveNames, if_pos (by simpa using means)]

theorem resolve_names_up :
    workspace.resolveNames depth path (".." :: rest) seen =
      workspace.resolveNames depth path.above rest seen := by
  rw [resolveNames, if_neg (by decide), if_pos rfl]

variable (isName : IsEntryName name) {target : String}
  (isLink : workspace.linkTarget? (path.child name).toPath = .ok (some target))
  {known : PartialPath}

include isName isLink

/-- A link that has been resolved is not resolved again. -/
theorem resolve_names_known
    (remembered : OrderedMap.find? seen (path.child name) = some (some known)) :
    workspace.resolveNames depth path (name :: rest) seen =
      workspace.resolveNames depth known rest seen := by
  rw [resolveNames, if_neg (by simp [isName.notEmpty, isName.notDot]), if_neg isName.notDots]
  simp only [isLink, remembered, bind, Except.bind]

/-- A link that is met for the first time is resolved with one link more in resolution. -/
theorem resolve_names_link {start : PartialPath}
    {inside : List (PartialPath × Option PartialPath)}
    (unmet : OrderedMap.find? seen (path.child name) = none)
    (isStart : (if target.toList.head? = some '/' then { fromRoot := true, components := [] }
      else path) = start)
    (resolved : workspace.resolveNames depth start (writtenNames target)
        (OrderedMap.put seen (path.child name) none) =
      .ok { path := known, complete := true, seen := inside }) :
    workspace.resolveNames (depth + 1) path (name :: rest) seen =
      workspace.resolveNames (depth + 1) known rest
        (OrderedMap.put inside (path.child name) (some known)) := by
  rw [resolveNames, if_neg (by simp [isName.notEmpty, isName.notDot]), if_neg isName.notDots]
  simp only [isLink, unmet, bind, Except.bind, isStart]
  rw [← writtenNames, resolved]
  rfl

end Steps

/-- Names resolve to a path that stands at a place, and the names behind them go on from there. -/
def ComesTo (workspace : Workspace) (depth : Nat) (path : PartialPath) (names more : List String)
    (seen : List (PartialPath × Option PartialPath)) (place : Location) (bytes : Nat) : Prop :=
  ∃ result after,
    workspace.resolveNames depth path (names ++ more) seen =
      workspace.resolveNames depth result more after ∧
    workspace.ResolvesTo path result place bytes seen after

/-- From every path that stands here, names resolve to a path that stands at the place. -/
def NamesResolve (workspace : Workspace) (here place : Location) (names targets : List String) :
    Prop :=
  ∀ (depth : Nat) (path : PartialPath) (more : List String)
    (seen : List (PartialPath × Option PartialPath)),
    workspace.Stands path here → targets.length ≤ depth →
    namesBytes path.components + (namesBytes names + namesBytes targets) < pathLimit →
    workspace.Recalls targets.length seen →
    workspace.ComesTo depth path names more seen place (namesBytes names + namesBytes targets)

theorem child_bytes (path : PartialPath) (name : String) :
    namesBytes (path.child name).components =
      namesBytes path.components + (name.utf8ByteSize + 1) := by
  simp [PartialPath.child]

theorem names_resolve_done (workspace : Workspace) (here : Location) :
    workspace.NamesResolve here here [] [] :=
  fun _ path _ seen stands _ _ recalls =>
    ⟨path, seen, rfl, stands, id, by simp, recalls, fun _ found => found⟩

theorem names_resolve_skip (workspace : Workspace) (here place : Location) (name : String)
    (rest targets : List String) (means : name = "" ∨ name = ".")
    (onward : workspace.NamesResolve here place rest targets) :
    workspace.NamesResolve here place (name :: rest) targets := by
  intro depth path more seen stands deep fits recalls
  rw [names_bytes_cons] at fits ⊢
  obtain ⟨result, after, resolved, toPlace⟩ :=
    onward depth path more seen stands deep (by omega) recalls
  exact ⟨result, after, (workspace.resolve_names_skip _ _ _ _ _ means).trans resolved,
    toPlace.before id (by omega) fun _ => id⟩

theorem names_resolve_up (workspace : Workspace) (here place : Location)
    (rest targets : List String) (isDirectory : workspace.files.entryAt? here = some .directory)
    (onward : workspace.NamesResolve here.dropLast place rest targets) :
    workspace.NamesResolve here place (".." :: rest) targets := by
  intro depth path more seen stands deep fits recalls
  have aboveBytes := above_bytes path
  simp only [names_bytes_cons, names_bytes_nil] at fits aboveBytes ⊢
  obtain ⟨result, after, resolved, toPlace⟩ :=
    onward depth path.above more seen (stands.pathAbove isDirectory) deep (by omega) recalls
  exact ⟨result, after, (workspace.resolve_names_up _ _ _ _).trans resolved,
    toPlace.before (by rw [PartialPath.above_from_root]; exact id) (by omega) fun _ => id⟩

/-- Where there is something of a name, what its path links to is told by its entry. -/
theorem target_of_entry (workspace : Workspace) (real : workspace.IsReal) (path : PartialPath)
    (here : Location) (name : String) (stands : workspace.Stands path here)
    (isName : IsEntryName name) (isThere : workspace.files.entryAt? (here ++ [name]) ≠ none)
    (fits : namesBytes path.components + (name.utf8ByteSize + 1) < pathLimit) :
    workspace.linkTarget? (path.child name).toPath =
      .ok (match workspace.files.entryAt? (here ++ [name]) with
        | some (.link target) => some target
        | _ => none) := by
  obtain ⟨entry, found⟩ := Option.ne_none_iff_exists'.mp isThere
  exact stands.target_below real name isName (real.noNull here name isThere)
    (workspace.files.directory_above here name entry found) (by rwa [child_bytes])

theorem names_resolve_entry (workspace : Workspace) (real : workspace.IsReal)
    (here place : Location) (name : String) (rest targets : List String) (entry : Entry)
    (isName : IsEntryName name) (found : workspace.files.entryAt? (here ++ [name]) = some entry)
    (notLink : ∀ target, entry ≠ .link target)
    (onward : workspace.NamesResolve (here ++ [name]) place rest targets) :
    workspace.NamesResolve here place (name :: rest) targets := by
  intro depth path more seen stands deep fits recalls
  have bytes := child_bytes path name
  rw [names_bytes_cons] at fits ⊢
  have noLink : workspace.linkTarget? (path.child name).toPath = .ok none := by
    rw [workspace.target_of_entry real path here name stands isName (by simp [found]) (by omega),
      found]
    cases entry with
    | file content => rfl
    | directory => rfl
    | link target => exact absurd rfl (notLink target)
  obtain ⟨result, after, resolved, toPlace⟩ :=
    onward depth (path.child name) more seen (stands.entry isName found notLink) deep
      (by omega) recalls
  exact ⟨result, after, (resolve_names_step workspace _ _ _ _ _
    ⟨isName.notEmpty, isName.notDot, isName.notDots⟩ noLink).trans resolved,
    toPlace.before id (by omega) fun _ => id⟩

section Links

variable (workspace : Workspace) (depth : Nat) (path : PartialPath) (middle place : Location)
  (name target : String) (rest inner others more : List String)
  (seen : List (PartialPath × Option PartialPath))
  (leads : workspace.LeadsOn path name target inner middle)
  (isLink : workspace.linkTarget? (path.child name).toPath = .ok (some target))
  (fits : namesBytes path.components + (namesBytes (name :: rest) +
    namesBytes (target :: inner ++ others)) < pathLimit)
  (recalls : workspace.Recalls (target :: inner ++ others).length seen)
  (onward : workspace.NamesResolve middle place rest others)

include leads isLink fits recalls onward

/-- From where a link is known to lead, the names behind it go on. -/
theorem known_link_comes_to (known : PartialPath)
    (deep : (target :: inner ++ others).length ≤ depth)
    (remembered : OrderedMap.find? seen (path.child name) = some (some known)) :
    workspace.ComesTo depth path (name :: rest) more seen place
      (namesBytes (name :: rest) + namesBytes (target :: inner ++ others)) := by
  obtain ⟨knownStands, knownRooted, knownBytes⟩ :=
    recalls.known path name known target inner middle remembered leads
  simp only [names_bytes_cons, names_bytes_append, List.cons_append] at fits ⊢
  rw [List.cons_append, List.length_cons, List.length_append] at deep recalls
  obtain ⟨result, after, resolved, toPlace⟩ :=
    onward depth known more seen knownStands (by omega) (by omega) (recalls.fewer _ (by omega))
  exact ⟨result, after, (workspace.resolve_names_known _ _ _ _ _ leads.isName isLink
    remembered).trans resolved, toPlace.before knownRooted (by omega) fun _ => id⟩

/-- A link that is met for the first time is resolved first, and then the names behind it. -/
theorem new_link_comes_to (here : Location) (stands : workspace.Stands path here)
    (deep : (target :: inner ++ others).length ≤ depth)
    (unmet : OrderedMap.find? seen (path.child name) = none)
    (inside : workspace.NamesResolve (linkStart target here) middle (writtenNames target) inner) :
    workspace.ComesTo depth path (name :: rest) more seen place
      (namesBytes (name :: rest) + namesBytes (target :: inner ++ others)) := by
  have writtenBytes := written_names_bytes target
  simp only [names_bytes_cons, names_bytes_append, List.cons_append] at fits ⊢
  rw [List.cons_append, List.length_cons, List.length_append] at deep recalls
  obtain ⟨left, rfl⟩ : ∃ left, depth = left + 1 := ⟨depth - 1, by omega⟩
  obtain ⟨start, isStart, standsAtStart, startRooted, startBytes⟩ := stands.atLinkStart target
  obtain ⟨known, middleSeen, resolvedInside, toMiddle⟩ :=
    inside left start [] (OrderedMap.put seen (path.child name) none) standsAtStart (by omega)
      (by omega) (recalls.begin leads (by omega))
  rw [List.append_nil, resolve_names_done] at resolvedInside
  have knownBytes := toMiddle.fits
  have recallsMiddle :=
    (recalls.finish leads startRooted startBytes toMiddle).fewer others.length (by omega)
  obtain ⟨result, after, resolved, toPlace⟩ :=
    onward (left + 1) known more _ toMiddle.stands (by omega) (by omega) recallsMiddle
  exact ⟨result, after, (workspace.resolve_names_link _ _ _ _ _ leads.isName isLink unmet isStart
    resolvedInside).trans resolved,
    toPlace.before (toMiddle.rooted ∘ startRooted) (by omega) toMiddle.without⟩

end Links

theorem names_resolve_link (workspace : Workspace) (real : workspace.IsReal)
    (here middle place : Location) (name target : String) (rest inner others : List String)
    (isName : IsEntryName name)
    (found : workspace.files.entryAt? (here ++ [name]) = some (.link target))
    (follows : Follows workspace.files (linkStart target here) (writtenNames target) inner middle)
    (inside : workspace.NamesResolve (linkStart target here) middle (writtenNames target) inner)
    (onward : workspace.NamesResolve middle place rest others) :
    workspace.NamesResolve here place (name :: rest) (target :: inner ++ others) := by
  intro depth path more seen stands deep fits recalls
  have leads : workspace.LeadsOn path name target inner middle :=
    ⟨isName, here, stands, found, follows⟩
  have isLink : workspace.linkTarget? (path.child name).toPath = .ok (some target) := by
    rw [names_bytes_cons] at fits
    rw [workspace.target_of_entry real path here name stands isName (by simp [found]) (by omega),
      found]
  cases remembered : OrderedMap.find? seen (path.child name) with
  | none =>
      exact workspace.new_link_comes_to depth path middle place name target rest inner others more
        seen leads isLink fits recalls onward here stands deep remembered inside
  | some answer =>
      cases answer with
      | some known =>
          exact workspace.known_link_comes_to depth path middle place name target rest inner others
            more seen leads isLink fits recalls onward known deep remembered
      | none =>
          -- The link would have itself on its way, and so more links than it has.
          have tooMany := recalls.pending path name target inner middle remembered leads
          rw [List.cons_append, List.length_cons, List.length_append] at tooMany
          omega

/-- Names that lead to a place resolve to a path that stands there. -/
theorem resolve_names_follow (workspace : Workspace) (real : workspace.IsReal)
    (here place : Location) (names targets : List String)
    (follows : Follows workspace.files here names targets place) :
    workspace.NamesResolve here place names targets := by
  induction follows with
  | done here => exact workspace.names_resolve_done here
  | skip means _ induction => exact workspace.names_resolve_skip _ _ _ _ _ means induction
  | up isDirectory _ induction => exact workspace.names_resolve_up _ _ _ _ isDirectory induction
  | entry isName found notLink _ induction =>
      exact workspace.names_resolve_entry real _ _ _ _ _ _ isName found notLink induction
  | link isName found inside _ insideInduction induction =>
      exact workspace.names_resolve_link real _ _ _ _ _ _ _ _ isName found inside insideInduction
        induction

theorem settle_bytes (names : List String) : namesBytes (settle names) ≤ namesBytes names := by
  induction names using List.reverseRecOn with
  | nil => exact Nat.le_refl _
  | append_singleton front name induction =>
      have dropped : namesBytes (settle front).dropLast ≤ namesBytes (settle front) := by
        rcases List.eq_nil_or_concat (settle front) with empty | ⟨before, last, split⟩
        · rw [empty]
          exact Nat.le_refl _
        · rw [split, List.concat_eq_append, List.dropLast_concat, names_bytes_append]
          exact Nat.le_add_right _ _
      rw [Stands.settle_concat, names_bytes_append]
      split
      · omega
      · split
        · omega
        · rw [names_bytes_append]
          omega

/-- A canonical path is the place that its resolution stands at, if that place can be asked
for. -/
theorem canonical_of_stands (workspace : Workspace) (path : Path) (result : PartialPath)
    (place : Location) (seen : List (PartialPath × Option PartialPath))
    (resolved : workspace.resolveNames resolutionDepth
        { fromRoot := path.isAbsolute, components := [] } path.components [] =
      .ok { path := result, complete := true, seen := seen })
    (settled : settle (workspace.startOf result.fromRoot ++ result.components) = place)
    (asked : (∃ found, workspace.lookUp true (Path.ofLocation place) = .ok found) ∨
      ∃ text, workspace.lookUp true (Path.ofLocation place) = .error (.refused .notFound text)) :
    workspace.canonical path = .ok (Path.ofLocation place) := by
  have sameComponents : (if result.fromRoot then result.components
      else workspace.workingDirectory ++ result.components) =
        workspace.startOf result.fromRoot ++ result.components := by
    cases result.fromRoot <;> rfl
  rw [canonical, resolved]
  simp only [bind, Except.bind, sameComponents, settled]
  rcases asked with ⟨found, isFound⟩ | ⟨text, absent⟩
  · rw [isFound]
  · rw [absent]

/-- The targets of the links on the way of a path. -/
def targetsOnWay (workspace : Workspace) (path : Path) : List String :=
  targetsMet workspace.files linkLimit (workspace.startOf path.isAbsolute) path.components

/-- The bytes of the names of a path, of those it starts from and of the targets on its way. -/
def wayBytes (workspace : Workspace) (path : Path) : Nat :=
  namesBytes (workspace.startOf path.isAbsolute) + namesBytes path.components +
    namesBytes (workspace.targetsOnWay path)

/-- A path that leads to a place leads there with each link on its way followed to its end. -/
theorem follows_of_arrival (workspace : Workspace) (wellFormed : workspace.files.WellFormed)
    (path : Path) (place : Location)
    (leads : workspace.arrive true path = .ok (.existing place)) :
    Follows workspace.files (workspace.startOf path.isAbsolute) path.components
        (workspace.targetsOnWay path) place ∧
      (workspace.targetsOnWay path).length ≤ linkLimit :=
  follows_of_walk workspace.files wellFormed linkLimit _ path.components place
    ((arrive_ok_iff _ _ _ _).mp leads).2

/-- An entry that a path leads to through its directory stands in that directory. -/
theorem entry_of_child (workspace : Workspace) (wellFormed : workspace.files.WellFormed)
    (directory : Path) (name : String) (isName : IsEntryName name) (here place : Location)
    (leads : workspace.arrive true directory = .ok (.existing here))
    (onward : workspace.arrive true (directory.child name) = .ok (.existing place)) :
    workspace.files.entryAt? (here ++ [name]) ≠ none := by
  have toDirectory := (workspace.follows_of_arrival wellFormed directory here leads).1
  have toEntry := (workspace.follows_of_arrival wellFormed (directory.child name) place onward).1
  obtain ⟨middle, first, second, -, front, last⟩ := toEntry.split
  obtain ⟨-, rfl⟩ := toDirectory.unique front
  cases last with
  | skip means _ => simp [isName.notEmpty, isName.notDot] at means
  | up _ _ => exact absurd rfl isName.notDots
  | entry _ found _ _ => simp [found]
  | link _ found _ _ => simp [found]

section Canonical

variable (workspace : Workspace) (real : workspace.IsReal)

include real

theorem location_follows (location : Location) (names : ∀ name ∈ location, IsEntryName name)
    (entry : Entry) (found : workspace.files.entryAt? location = some entry)
    (notLink : ∀ target, entry ≠ .link target) :
    Follows workspace.files [] location [] location := by
  have stands := Stands.of_location workspace location names entry found notLink
  have reached := stands.stretch_on true []
  rw [List.append_nil, stretch_at_end] at reached
  exact follows_of_stretch workspace.files real.onDisk.wellFormed [] location location reached

/-- Names that lead from the start to a place resolve to a path whose place is written out by
carrying out its double dots. -/
theorem resolve_from_start (fromRoot : Bool) (place : Location) (names targets more : List String)
    (follows : Follows workspace.files (workspace.startOf fromRoot) names targets place)
    (few : targets.length ≤ resolutionDepth)
    (fits : namesBytes (workspace.startOf fromRoot) + namesBytes names + namesBytes targets <
      pathLimit) :
    ∃ result after,
      workspace.resolveNames resolutionDepth { fromRoot := fromRoot, components := [] }
          (names ++ more) [] =
        workspace.resolveNames resolutionDepth result more after ∧
      workspace.Stands result place ∧
      namesBytes (workspace.startOf result.fromRoot) + namesBytes result.components ≤
        namesBytes (workspace.startOf fromRoot) + namesBytes names + namesBytes targets := by
  have nothing : workspace.Recalls targets.length [] :=
    ⟨fun path name result _ _ _ found _ => by simp [OrderedMap.find?] at found,
      fun path name _ _ _ found _ => by simp [OrderedMap.find?] at found⟩
  obtain ⟨result, after, resolved, toPlace, rooted, bytes, -, -⟩ :=
    workspace.resolve_names_follow real _ place names targets follows resolutionDepth _ more []
      (.start fromRoot) few (by simp; omega) nothing
  refine ⟨result, after, resolved, toPlace, ?_⟩
  rw [names_bytes_nil, Nat.zero_add] at bytes
  cases isRooted : result.fromRoot with
  | true =>
      have noBytes : namesBytes (workspace.startOf true) = 0 := rfl
      omega
  | false =>
      obtain rfl : fromRoot = false := by
        cases fromRoot with
        | false => rfl
        | true => exact absurd ((rooted rfl).symm.trans isRooted) (by decide)
      omega

/-- A place that can be written in few enough bytes is looked up by its own path. -/
theorem look_up_location (place : Location) (node : Node) (names : ∀ name ∈ place, IsEntryName name)
    (found : workspace.files.node? place = some node) (notLink : ∀ target, node ≠ .link target)
    (fits : namesBytes place < pathLimit) :
    workspace.lookUp true (Path.ofLocation place) = .ok (place, node) := by
  have entry : workspace.files.entryAt? place = some node.entry := by
    rw [Node.entryAt?, found]
    rfl
  have entryNotLink : ∀ target, node.entry ≠ .link target := by
    intro target isLink
    cases node with
    | file content => cases isLink
    | link other => exact absurd rfl (notLink other)
    | directory entries => cases isLink
  have stands := Stands.of_location workspace place names node.entry entry
    entryNotLink
  exact (look_up_ok_iff _ _ _ _ _).mpr ⟨stands.arrives real true fits, found⟩

/-- A name that a directory does not have is missing under its own path too. -/
theorem look_up_missing (here : Location) (names : ∀ name ∈ here, IsEntryName name) (name : String)
    (isName : IsEntryName name) (noNull : '\x00' ∉ name.toList)
    (isDirectory : workspace.files.entryAt? here = some .directory)
    (absent : workspace.files.entryAt? (here ++ [name]) = none)
    (fits : namesBytes (here ++ [name]) < pathLimit) :
    workspace.lookUp true (Path.ofLocation (here ++ [name])) =
      .error (.refused .notFound (Path.ofLocation (here ++ [name])).text) := by
  have fromRoot := Stands.of_location workspace here names .directory isDirectory nofun
  have missing := fromRoot.arrives_below real name isName noNull isDirectory fits
  rw [if_pos absent] at missing
  have following := workspace.arrive_follow_missing _ here name missing
  have samePath : (PartialPath.child { fromRoot := true, components := here } name).toPath =
      Path.ofLocation (here ++ [name]) := rfl
  rw [samePath] at following
  simp [lookUp, following, bind, Except.bind]

/-- The canonical path of a path that leads to a place is that place, which something stands
at. -/
theorem canonical_of_follows (path : Path) (place : Location) (targets : List String)
    (follows : Follows workspace.files (workspace.startOf path.isAbsolute) path.components targets
      place)
    (few : targets.length ≤ resolutionDepth)
    (fits : namesBytes (workspace.startOf path.isAbsolute) + namesBytes path.components +
      namesBytes targets < pathLimit) :
    workspace.canonical path = .ok (Path.ofLocation place) ∧
      (∀ name ∈ place, IsEntryName name) ∧ namesBytes place < pathLimit ∧
      ∃ node, workspace.files.node? place = some node ∧
        workspace.lookUp true (Path.ofLocation place) = .ok (place, node) := by
  obtain ⟨result, after, resolved, stands, resultFits⟩ :=
    workspace.resolve_from_start real path.isAbsolute place path.components targets [] follows few
      fits
  rw [List.append_nil, resolve_names_done] at resolved
  have settled := stands.settled real
  have placeFits := settle_bytes (workspace.startOf result.fromRoot ++ result.components)
  rw [settled, names_bytes_append] at placeFits
  obtain ⟨⟨entry, isEntry, notLink⟩, names⟩ := stands.placed real
  obtain ⟨node, found, rfl⟩ := Option.map_eq_some_iff.mp isEntry
  have noLink : ∀ target, node ≠ .link target := by
    rintro target rfl
    exact notLink target rfl
  have looked := workspace.look_up_location real place node names found noLink (by omega)
  exact ⟨workspace.canonical_of_stands path result place after resolved settled
    (Or.inl ⟨_, looked⟩), names, by omega, node, found, looked⟩

/-- A directory's place is its own canonical path. -/
theorem canonical_of_directory (location : Location) (names : ∀ name ∈ location, IsEntryName name)
    (isDirectory : workspace.files.entryAt? location = some .directory)
    (fits : namesBytes location < pathLimit) :
    workspace.canonical (Path.ofLocation location) = .ok (Path.ofLocation location) := by
  have follows := workspace.location_follows real location names .directory isDirectory nofun
  have start : namesBytes (workspace.startOf true) = 0 := rfl
  have absolute : (Path.ofLocation location).isAbsolute = true := rfl
  have components : (Path.ofLocation location).components = location := rfl
  exact (workspace.canonical_of_follows real (Path.ofLocation location) location [] follows
    (Nat.zero_le _) (by rw [absolute, components, start, names_bytes_nil]; omega)).1

theorem canonical_above (place : Location) (node : Node) (names : ∀ name ∈ place, IsEntryName name)
    (found : workspace.files.node? place = some node) (fits : namesBytes place < pathLimit) :
    workspace.canonical (Path.ofLocation place).parent = .ok (Path.ofLocation place.dropLast) := by
  rcases List.eq_nil_or_concat place with rfl | ⟨front, name, rfl⟩
  · exact workspace.canonical_of_directory real [] names (Stands.directory_at_start real true) fits
  · rw [List.concat_eq_append] at found fits names ⊢
    have isDirectory := workspace.files.directory_above front name node.entry
      (by rw [Node.entryAt?, found]; rfl)
    rw [names_bytes_append] at fits
    rw [Path.parent, Path.ofLocation, List.dropLast_concat]
    exact workspace.canonical_of_directory real front
      (fun other member => names other (List.mem_append_left _ member)) isDirectory (by omega)

/-- The canonical path of a name that is missing in a directory is that name in its place. -/
theorem canonical_of_missing (path : Path) (name : String) (here : Location)
    (targets : List String) (isName : IsEntryName name) (noNull : '\x00' ∉ name.toList)
    (follows : Follows workspace.files (workspace.startOf path.isAbsolute) path.components targets
      here)
    (isDirectory : workspace.files.entryAt? here = some .directory)
    (absent : workspace.files.entryAt? (here ++ [name]) = none)
    (few : targets.length ≤ resolutionDepth)
    (fits : namesBytes (workspace.startOf path.isAbsolute) +
      namesBytes (path.components ++ [name]) + namesBytes targets < pathLimit) :
    workspace.canonical (path.child name) = .ok (Path.ofLocation (here ++ [name])) ∧
      workspace.lookUp true (Path.ofLocation (here ++ [name])) =
        .error (.refused .notFound (Path.ofLocation (here ++ [name])).text) := by
  rw [names_bytes_append] at fits
  obtain ⟨result, after, resolved, stands, resultFits⟩ :=
    workspace.resolve_from_start real path.isAbsolute here path.components targets [name] follows
      few (by omega)
  have settled := stands.settled real
  have hereFits := settle_bytes (workspace.startOf result.fromRoot ++ result.components)
  rw [settled, names_bytes_append] at hereFits
  have lookedAbsent := workspace.look_up_missing real here (stands.placed real).2 name isName
    noNull isDirectory absent (by rw [names_bytes_append]; omega)
  have childFits : namesBytes (result.child name).components < pathLimit := by
    simp only [PartialPath.child, names_bytes_append]
    omega
  have noLink := stands.target_below real name isName noNull isDirectory childFits
  rw [absent] at noLink
  rw [resolve_names_step workspace _ _ _ _ _ ⟨isName.notEmpty, isName.notDot, isName.notDots⟩
    noLink, resolve_names_done] at resolved
  have childSettled : settle (workspace.startOf (result.child name).fromRoot ++
      (result.child name).components) = here ++ [name] := by
    have split : workspace.startOf (result.child name).fromRoot ++ (result.child name).components =
        (workspace.startOf result.fromRoot ++ result.components) ++ [name] := by
      simp [PartialPath.child]
    rw [split, Stands.settle_name _ name isName, settled]
  exact ⟨workspace.canonical_of_stands (path.child name) (result.child name) (here ++ [name]) after
    resolved childSettled (Or.inr ⟨_, lookedAbsent⟩), lookedAbsent⟩

end Canonical

end Workspace

end ReadmePress
