import ReadmePress.Proofs.Text.Veil
import ReadmePress.Tools.Operation

/-!
Collected facts and what is made of them. A sheet is just the facts without lone surrogates, and
only of a sheet a document is written.
-/

namespace ReadmePress

open ReadmePress.Text

/-- Reading each item of a list undoes writing each of them. -/
theorem map_m_eq_some_iff {Item Written : Type} (read : Written → Option Item)
    (write : Item → Written)
    (reads : ∀ written item, read written = some item ↔ written = write item)
    (written : List Written) (items : List Item) :
    written.mapM read = some items ↔ written = items.map write := by
  induction written generalizing items with
  | nil => cases items <;> simp
  | cons first rest induction =>
      rw [List.mapM_cons]
      simp only [Option.bind_eq_bind, Option.bind_eq_some_iff, Option.pure_def, Option.some.injEq,
        reads, induction]
      cases items with
      | nil => simp
      | cons item more => simp

namespace WideFacts

def widePair (entry : String × String) : WideText × WideText :=
  (WideText.ofString entry.1, WideText.ofString entry.2)

def wideMap (entries : List (String × String)) : TextMap := entries.map widePair

theorem plain_pair_eq_some_iff (entry : WideText × WideText) (plain : String × String) :
    plainPair? entry = some plain ↔ entry = widePair plain := by
  obtain ⟨name, value⟩ := entry
  obtain ⟨plainName, plainValue⟩ := plain
  simp [plainPair?, widePair, Option.bind_eq_some_iff, WideText.toString?_eq_some_iff]

theorem plain_map_eq_some_iff (map : Option TextMap) (plain : Option (List (String × String))) :
    plainMap? map = some plain ↔ map = plain.map wideMap := by
  cases map with
  | none => cases plain <;> simp [plainMap?]
  | some entries =>
      have pairs := map_m_eq_some_iff plainPair? widePair plain_pair_eq_some_iff entries
      cases plain with
      | none => simp [plainMap?]
      | some others => simp [plainMap?, pairs, wideMap]

/-- The facts of a sheet. -/
def ofSheet (sheet : FactSheet) : WideFacts :=
  { name := WideText.ofString sheet.name
    description := sheet.description
    badges := sheet.badges
    options := sheet.options
    features := sheet.features.map WideText.ofString
    scripts := sheet.scripts.map wideMap
    listing := sheet.listing
    routes := sheet.routes
    environmentKeys := sheet.environmentKeys
    dependencies := sheet.dependencies.map wideMap }

theorem sheet_eq_some_iff (facts : WideFacts) (sheet : FactSheet) :
    facts.sheet? = some sheet ↔ facts = ofSheet sheet := by
  obtain ⟨name, description, badges, options, features, scripts, listing, routes,
    environmentKeys, dependencies⟩ := facts
  obtain ⟨plainName, plainDescription, plainBadges, plainOptions, plainFeatures, plainScripts,
    plainListing, plainRoutes, plainKeys, plainDependencies⟩ := sheet
  have plainTexts := map_m_eq_some_iff WideText.toString? WideText.ofString
    WideText.toString?_eq_some_iff
  simp only [sheet?, ofSheet, Option.bind_eq_bind, Option.bind_eq_some_iff, Option.some.injEq,
    WideText.toString?_eq_some_iff, plainTexts, plain_map_eq_some_iff, WideFacts.mk.injEq,
    FactSheet.mk.injEq]
  constructor
  · rintro ⟨_, rfl, _, rfl, _, rfl, _, rfl, same⟩
    simp [same]
  · rintro ⟨rfl, rfl, rfl, rfl, rfl, rfl, rfl, rfl, rfl, rfl⟩
    exact ⟨_, rfl, _, rfl, _, rfl, _, rfl, rfl, rfl, rfl, rfl, rfl, rfl, rfl, rfl, rfl, rfl⟩

theorem of_sheet_injective {sheet other : FactSheet} (same : ofSheet sheet = ofSheet other) :
    sheet = other := by
  have written := (sheet_eq_some_iff (ofSheet sheet) sheet).mpr rfl
  rw [(sheet_eq_some_iff (ofSheet sheet) other).mpr same] at written
  exact (Option.some.inj written).symm

end WideFacts

namespace Workspace

theorem document_of_ok_iff (facts : WideFacts) (text : String) :
    (documentOf facts).outcome = .ok text ↔
      ∃ sheet, facts = .ofSheet sheet ∧ fullDocument sheet = text := by
  simp only [← WideFacts.sheet_eq_some_iff, documentOf]
  cases facts.sheet? with
  | none => simp [Traced.fail]
  | some sheet => simp [pure, Traced.pure]

/-- Writing a document fails for the document as a whole. -/
theorem document_of_error (facts : WideFacts) (fault : Failure)
    (failed : (documentOf facts).outcome = .error fault) :
    fault = .illFormed (wideDocument facts) := by
  simp only [documentOf] at failed
  split at failed
  next => exact absurd failed nofun
  next => exact (Except.error.inj failed).symm

end Workspace

end ReadmePress
