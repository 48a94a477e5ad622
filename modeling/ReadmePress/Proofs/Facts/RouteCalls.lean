import ReadmePress.Facts.Routes
import ReadmePress.Proofs.Text.Passages

/-!
The grammar of route calls, and the scan for them. The scan of a text gives the routes of exactly
the leftmost calls that do not overlap: it never starts inside a call that it has taken, and every
call that it passes by starts inside one.
-/

namespace ReadmePress

open ReadmePress.Text

/-- A call that names a route: a receiver that no word character precedes, a dot, a verb, and in
brackets a quoted path that is not empty. Any white space may stand on both sides of the opening
bracket, and the path is all that stands between two quotes, whatever their kinds. -/
inductive RouteCall : PassageRule Route where
  | call (before after : Option Char) (receiver verb : String) (gap space path : List Char)
      (opening closing : Char)
      (boundary : ∀ character ∈ before, isWord character = false)
      (isReceiver : receiver ∈ ["app", "router"])
      (isVerb : verb ∈ ["get", "post", "put", "delete", "patch", "options", "head"])
      (gapBlank : ∀ character ∈ gap, isBlank character = true)
      (spaceBlank : ∀ character ∈ space, isBlank character = true)
      (opens : Route.isQuote opening = true) (closes : Route.isQuote closing = true)
      (notEmpty : path ≠ []) (unquoted : ∀ character ∈ path, Route.isQuote character = false) :
      RouteCall before
        (receiver.toList ++ '.' :: verb.toList ++ gap ++ '(' :: space ++ opening :: path
          ++ [closing])
        after { verb := verb, path := path }

namespace Text

theorem trim_start_cut (text : List Char) :
    ∃ gap, (∀ character ∈ gap, isBlank character = true) ∧ text = gap ++ trimStart text :=
  ⟨text.takeWhile isBlank, List.all_eq_true.mp List.all_takeWhile,
    List.takeWhile_append_dropWhile.symm⟩

theorem trim_start_gap (gap rest : List Char) (character : Char)
    (blank : ∀ character ∈ gap, isBlank character = true)
    (notBlank : isBlank character = false) :
    trimStart (gap ++ character :: rest) = character :: rest := by
  rw [trimStart, List.dropWhile_append_of_pos blank,
    List.dropWhile_cons_of_neg (by simp [notBlank])]

end Text

namespace Route

theorem take_char_iff (expected : Char) (text rest : List Char) :
    takeChar? expected text = some rest ↔ text = expected :: rest := by
  cases text with
  | nil => simp [takeChar?]
  | cons character more =>
      simp only [takeChar?, Option.ite_none_right_eq_some, Option.some.injEq, List.cons.injEq]

theorem take_word_found (words : List String) (text : List Char) (word : String)
    (rest : List Char) (found : takeWord? words text = some (word, rest)) :
    word ∈ words ∧ text = word.toList ++ rest := by
  obtain ⟨other, member, taken⟩ := List.exists_of_findSome?_eq_some found
  rw [Option.ite_none_right_eq_some, Option.some.injEq, Prod.mk.injEq] at taken
  obtain ⟨starts, rfl, rfl⟩ := taken
  obtain ⟨remaining, rfl⟩ := List.isPrefixOf_iff_prefix.mp starts
  refine ⟨member, ?_⟩
  rw [← String.length_toList, List.drop_left]

/-- Words none of which starts another one are told apart by the text that they start. -/
theorem take_word_finds (words : List String)
    (apart : ∀ word ∈ words, ∀ other ∈ words, word.toList <+: other.toList → word = other)
    (word : String) (member : word ∈ words) (rest : List Char) :
    takeWord? words (word.toList ++ rest) = some (word, rest) := by
  cases taken : takeWord? words (word.toList ++ rest) with
  | none =>
      have refused := List.findSome?_eq_none_iff.mp taken word member
      simp at refused
  | some result =>
      obtain ⟨other, remaining⟩ := result
      obtain ⟨otherMember, cut⟩ := take_word_found words _ other remaining taken
      obtain rfl : word = other := by
        have starts : word.toList <+: other.toList ++ remaining := cut ▸ List.prefix_append _ _
        rcases List.prefix_or_prefix_of_prefix starts (List.prefix_append _ _) with short | long
        · exact apart word member other otherMember short
        · exact (apart other otherMember word member long).symm
      rw [List.append_cancel_left cut]

theorem take_quoted_found (text path rest : List Char)
    (found : takeQuoted? text = some (path, rest)) :
    ∃ opening closing, text = opening :: path ++ closing :: rest ∧ isQuote opening = true ∧
      isQuote closing = true ∧ path ≠ [] ∧ ∀ character ∈ path, isQuote character = false := by
  cases text with
  | nil => simp [takeQuoted?] at found
  | cons mark more =>
      simp only [takeQuoted?] at found
      split at found
      next => simp at found
      next opens =>
        have cut := List.takeWhile_append_dropWhile (p := (!isQuote ·)) (l := more)
        have closes := List.head?_dropWhile_not (!isQuote ·) more
        have unquoted := List.all_eq_true.mp (List.all_takeWhile (p := (!isQuote ·)) (l := more))
        cases taken : more.takeWhile (!isQuote ·) with
        | nil => simp [taken] at found
        | cons first others =>
            cases dropped : more.dropWhile (!isQuote ·) with
            | nil => simp [taken, dropped] at found
            | cons closing remaining =>
                simp only [taken, dropped, Option.some.injEq, Prod.mk.injEq] at found
                obtain ⟨rfl, rfl⟩ := found
                rw [taken, dropped] at cut
                rw [dropped] at closes
                rw [taken] at unquoted
                refine ⟨mark, closing, ?_, by simpa using opens, by simpa using closes,
                  List.cons_ne_nil first others, ?_⟩
                · rw [List.cons_append, cut]
                · exact fun character member => by simpa using unquoted character member

theorem take_quoted_finds (path rest : List Char) (opening closing : Char)
    (opens : isQuote opening = true) (closes : isQuote closing = true) (notEmpty : path ≠ [])
    (unquoted : ∀ character ∈ path, isQuote character = false) :
    takeQuoted? (opening :: path ++ closing :: rest) = some (path, rest) := by
  have plain : ∀ character ∈ path, (!isQuote character) = true := by
    intro character member
    simp [unquoted character member]
  have taken : (path ++ closing :: rest).takeWhile (!isQuote ·) = path := by
    rw [List.takeWhile_append_of_pos plain, List.takeWhile_cons_of_neg (by simp [closes]),
      List.append_nil]
  have dropped : (path ++ closing :: rest).dropWhile (!isQuote ·) = closing :: rest := by
    rw [List.dropWhile_append_of_pos plain, List.dropWhile_cons_of_neg (by simp [closes])]
  rw [List.cons_append, takeQuoted?, if_neg (by simp [opens]), taken, dropped]
  cases path with
  | nil => exact absurd rfl notEmpty
  | cons first others => rfl

theorem receivers_apart : ∀ word ∈ receivers, ∀ other ∈ receivers,
    word.toList <+: other.toList → word = other := by
  decide

theorem verbs_apart : ∀ word ∈ verbs, ∀ other ∈ verbs,
    word.toList <+: other.toList → word = other := by
  decide

theorem quote_is_not_blank (character : Char) (quote : isQuote character = true) :
    isBlank character = false := by
  simp only [isQuote, Bool.or_eq_true, beq_iff_eq] at quote
  rcases quote with (rfl | rfl) | rfl <;> decide

/-- The search for a call at a place. -/
def search : Search Route := fun before text =>
  if before.any isWord then none else at? text

theorem search_found (before : Option Char) (text remaining : List Char) (route : Route)
    (found : search before text = some (route, remaining)) :
    ∃ piece, text = piece ++ remaining ∧ RouteCall before piece remaining.head? route := by
  rw [search, Option.ite_none_left_eq_some] at found
  obtain ⟨boundary, found⟩ := found
  simp only [at?, Option.bind_eq_bind, Option.bind_eq_some_iff, Option.some.injEq, Prod.mk.injEq,
    Prod.exists] at found
  obtain ⟨receiver, dotted, isReceiver, called, isDot, verb, bracketed, isVerb, argument, isBracket,
    path, after, isQuoted, rfl, rfl⟩ := found
  obtain ⟨receiverMember, rfl⟩ := take_word_found receivers text receiver dotted isReceiver
  rw [take_char_iff] at isDot isBracket
  obtain ⟨verbMember, rfl⟩ := take_word_found verbs called verb bracketed isVerb
  obtain ⟨gap, gapBlank, gapCut⟩ := trim_start_cut bracketed
  obtain ⟨space, spaceBlank, spaceCut⟩ := trim_start_cut argument
  obtain ⟨opening, closing, quotedCut, opens, closes, notEmpty, unquoted⟩ :=
    take_quoted_found _ path after isQuoted
  refine ⟨_, ?_, .call before after.head? receiver verb gap space path opening closing ?_
    receiverMember verbMember gapBlank spaceBlank opens closes notEmpty unquoted⟩
  · rw [isDot, gapCut, isBracket, spaceCut, quotedCut]
    simp
  · intro character present
    cases present
    simpa using boundary

theorem search_finds (before : Option Char) (piece remaining : List Char) (route : Route)
    (call : RouteCall before piece remaining.head? route) :
    search before (piece ++ remaining) = some (route, remaining) := by
  cases call with
  | call _ _ receiver verb gap space path opening closing boundary isReceiver isVerb gapBlank
      spaceBlank opens closes notEmpty unquoted =>
      have noWord : before.any isWord = false := by
        cases before with
        | none => rfl
        | some character => exact boundary character rfl
      have openingSeen := quote_is_not_blank opening opens
      rw [search, noWord, if_neg (by simp), at?]
      simp only [List.append_assoc, List.cons_append, Option.bind_eq_bind]
      rw [take_word_finds receivers receivers_apart receiver isReceiver, Option.bind_some,
        (take_char_iff '.' _ _).mpr rfl, Option.bind_some,
        take_word_finds verbs verbs_apart verb isVerb, Option.bind_some,
        trim_start_gap gap _ '(' gapBlank (by decide), (take_char_iff '(' _ _).mpr rfl,
        Option.bind_some, trim_start_gap space _ opening spaceBlank openingSeen,
        ← List.cons_append, take_quoted_finds path _ opening closing opens closes notEmpty unquoted,
        Option.bind_some, List.nil_append]

theorem search_follows : search.Follows RouteCall where
  found := fun before text route remaining => search_found before text remaining route
  finds := search_finds
  notEmpty := by
    intro before piece after route call
    cases call
    simp

theorem scan_from_eq (passing : Nat) (before : Option Char) (text : List Char) :
    scanFrom passing (before.any isWord) text = scanWith search passing before text := by
  induction text generalizing passing before with
  | nil => simp [scanFrom, scanWith]
  | cons character rest induction =>
      have step := fun passing => induction passing (some character)
      rw [Option.any_some] at step
      cases passing with
      | succ passing => rw [scanFrom, scanWith, step]
      | zero =>
          have searched : (if before.any isWord then none else at? (character :: rest)) =
              search before (character :: rest) := rfl
          rw [scanFrom, searched, scanWith]
          cases search before (character :: rest) with
          | none => exact step 0
          | some result => simp only [step]

/-- The routes of a text are those of its leftmost calls that do not overlap, each shown by its
verb in capitals and its path as it stands. -/
theorem scan_leftmost_calls (text : List Char) :
    ∃ calls, (∀ others, Leftmost RouteCall text 0 others ↔ others = calls) ∧
      (scan text).map Route.text =
        calls.map fun call => call.value.verb.toUpper ++ " " ++ String.ofList call.value.path := by
  obtain ⟨calls, leftmost, values⟩ := scan_with_values search RouteCall search_follows text
  refine ⟨calls, leftmost, ?_⟩
  have scanned : scan text = calls.map (·.value) := (scan_from_eq 0 none text).trans values
  rw [scanned, List.map_map]
  rfl

end Route

end ReadmePress
