import Compositor.Proofs.Markup.Composed
import Compositor.Proofs.Markup.Scans
import Mathlib.Data.List.Chain

/-! The segments of a header or footer cell. Written out they are the text; a placeholder is read
wherever one stands, and what is left between placeholders is one literal. This divides every text
in one way only. -/

namespace Compositor.Markup

open Text

/-- The placeholders: no part of one is empty, and none goes on behind its closing brace. -/
inductive Segment.IsPlaceholder : Segment → Prop
  | page : IsPlaceholder .page
  | totalPages : IsPlaceholder .totalPages
  | today : IsPlaceholder (.date none)
  | date {format : Text} : format ≠ [] → '}' ∉ format → IsPlaceholder (.date (some format))
  | logo {path : Path} : path ≠ [] → ':' ∉ path → '}' ∉ path → IsPlaceholder (.logo path none)
  | sizedLogo {path : Path} {height : Text} : path ≠ [] → ':' ∉ path → '}' ∉ path →
      height ≠ [] → '}' ∉ height → IsPlaceholder (.logo path (some height))

def Segment.IsLiteral (segment : Segment) : Prop := ∃ text, segment = .literal text

/-- A text with its segments. No placeholder starts at an opening brace of a literal, where `behind`
is what the literal goes on with. -/
structure Tokenizes (text : Text) (segments : List Segment) : Prop where
  source : segments.flatMap Segment.source = text
  filled : ∀ content, .literal content ∈ segments → content ≠ []
  apart : segments.IsChain fun first second => ¬ (first.IsLiteral ∧ second.IsLiteral)
  placeholders : ∀ segment ∈ segments, segment.IsLiteral ∨ segment.IsPlaceholder
  braces : ∀ content after, .literal content :: after <:+ segments →
    ∀ behind, '{' :: behind <:+ content →
      readPlaceholder? (behind ++ after.flatMap Segment.source) = none

/-! Reading one placeholder. -/

theorem logoSegment?_isPlaceholder {text : Text} {segment : Segment} (inside : '}' ∉ text)
    (found : logoSegment? text = some segment) : segment.IsPlaceholder := by
  unfold logoSegment? at found
  split at found
  next missing =>
    split at found
    · cases found
    next filled =>
      cases found
      rw [cut?_eq_none_iff] at missing
      refine .logo (by simpa using filled) ?_ inside
      intro colon
      exact missing ((List.singleton_infix_iff _ _).mpr colon)
  next path height parted =>
    split at found
    · cases found
    next filled =>
      cases found
      obtain ⟨noColon, rfl⟩ := cut?_character_eq_some_iff.mp parted
      simp only [Bool.or_eq_true, List.isEmpty_iff, not_or] at filled
      simp only [List.mem_append, List.mem_cons, not_or] at inside
      exact .sizedLogo filled.1 noColon inside.1 filled.2 inside.2.2

theorem placeholder?_isPlaceholder {text : Text} {segment : Segment} (inside : '}' ∉ text)
    (found : placeholder? text = some segment) : segment.IsPlaceholder := by
  unfold placeholder? at found
  split at found
  · cases found
    exact .page
  split at found
  · cases found
    exact .totalPages
  split at found
  · cases found
    exact .today
  split at found
  next format stripped =>
    split at found
    · cases found
    next filled =>
      cases found
      rw [stripStart?_eq_some.mp stripped, List.mem_append, not_or] at inside
      exact .date (by simpa using filled) inside.2
  next =>
    split at found
    next logo stripped =>
      rw [stripStart?_eq_some.mp stripped, List.mem_append, not_or] at inside
      exact logoSegment?_isPlaceholder inside.2 found
    next => cases found

theorem cut?_closeBrace {inner : Text} (inside : '}' ∉ inner) (after : Text) :
    cut? closeBrace (inner ++ '}' :: after) = some (inner, after) :=
  cut?_character inside after

theorem logoSegment?_path {path : Path} (filled : path ≠ []) (noColon : ':' ∉ path) :
    logoSegment? path = some (.logo path none) := by
  have missing : cut? [':'] path = none := by
    rw [cut?_eq_none_iff, List.singleton_infix_iff]
    exact noColon
  simp [logoSegment?, missing, filled]

theorem logoSegment?_sized {path : Path} {height : Text} (filled : path ≠ [])
    (noColon : ':' ∉ path) (sized : height ≠ []) :
    logoSegment? (path ++ ':' :: height) = some (.logo path (some height)) := by
  have parted := cut?_character noColon height
  simp [logoSegment?, parted, filled, sized]

theorem placeholder?_logo (logo : Text) : placeholder? ("logo:" ++ logo) = logoSegment? logo := by
  simp [placeholder?, stripStart?]

theorem placeholder?_date {format : Text} (filled : format ≠ []) :
    placeholder? ("date:" ++ format) = some (.date (some format)) := by
  simp [placeholder?, stripStart?, filled]

theorem Segment.IsPlaceholder.inner {segment : Segment} (placeholder : segment.IsPlaceholder) :
    ∃ inner, '}' ∉ inner ∧ segment.source = inBraces inner ∧
      placeholder? inner = some segment := by
  cases placeholder with
  | page => exact ⟨"page".toList, by decide, rfl, rfl⟩
  | totalPages => exact ⟨"total-pages".toList, by decide, rfl, rfl⟩
  | today => exact ⟨"date".toList, by decide, rfl, rfl⟩
  | date filled inside =>
      refine ⟨_, ?_, rfl, placeholder?_date filled⟩
      simpa using inside
  | logo filled noColon inside =>
      refine ⟨_, ?_, rfl, (placeholder?_logo _).trans (logoSegment?_path filled noColon)⟩
      simpa using inside
  | sizedLogo filled noColon inside sized insideHeight =>
      refine ⟨"logo:".toList ++ (_ ++ ':' :: _), ?_, ?_,
        (placeholder?_logo _).trans (logoSegment?_sized filled noColon sized)⟩
      · simp [inside, insideHeight]
      · simp [Segment.source]

theorem readPlaceholder?_eq_some_iff {text after : Text} {segment : Segment} :
    readPlaceholder? text = some (segment, after) ↔
      segment.IsPlaceholder ∧ '{' :: text = segment.source ++ after := by
  constructor
  · intro found
    refine ⟨?_, readPlaceholder?_source found⟩
    unfold readPlaceholder? at found
    split at found
    next inner rest parted =>
      simp only [Option.map_eq_some_iff, Prod.mk.injEq] at found
      obtain ⟨_, isPlaceholder, rfl, rfl⟩ := found
      exact placeholder?_isPlaceholder (cut?_character_eq_some_iff.mp parted).1 isPlaceholder
    next => cases found
  · rintro ⟨placeholder, shape⟩
    obtain ⟨inner, inside, source, isPlaceholder⟩ := placeholder.inner
    have whole : text = inner ++ '}' :: after := by
      rw [source] at shape
      simpa [inBraces, openBrace, closeBrace] using shape
    simp [readPlaceholder?, whole, cut?_closeBrace inside, isPlaceholder]

/-! The scan. -/

/-- What the first segment of a division has to do with those behind it. -/
inductive Segment.Fits : Segment → List Segment → Prop
  | placeholder {segment : Segment} {after : List Segment} :
      segment.IsPlaceholder → Fits segment after
  | literal {content : Text} {after : List Segment} : content ≠ [] →
      (∀ next ∈ after.head?, ¬ next.IsLiteral) →
      (∀ behind, '{' :: behind <:+ content →
        readPlaceholder? (behind ++ after.flatMap Segment.source) = none) →
      Fits (.literal content) after

theorem Segment.IsPlaceholder.notLiteral {segment : Segment}
    (placeholder : segment.IsPlaceholder) : ¬ segment.IsLiteral := by
  rintro ⟨text, rfl⟩
  cases placeholder

theorem Segment.Fits.ofLiteral {content : Text} {after : List Segment}
    (fits : Fits (.literal content) after) :
    content ≠ [] ∧ (∀ next ∈ after.head?, ¬ next.IsLiteral) ∧
      ∀ behind, '{' :: behind <:+ content →
        readPlaceholder? (behind ++ after.flatMap Segment.source) = none := by
  cases fits with
  | placeholder placeholder => exact absurd ⟨content, rfl⟩ placeholder.notLiteral
  | literal filled stops closed => exact ⟨filled, stops, closed⟩

theorem tokenizes_nil_iff {text : Text} : Tokenizes text [] ↔ text = [] := by
  constructor
  · intro tokenizes
    exact tokenizes.source.symm
  · rintro rfl
    constructor <;> simp

theorem tokenizes_cons_iff {text : Text} {segment : Segment} {after : List Segment} :
    Tokenizes text (segment :: after) ↔
      segment.Fits after ∧ ∃ rest, text = segment.source ++ rest ∧ Tokenizes rest after := by
  constructor
  · rintro ⟨source, filled, apart, placeholders, braces⟩
    rw [List.isChain_cons] at apart
    refine ⟨?_, after.flatMap Segment.source, ?_, ?_⟩
    · rcases placeholders segment (.head _) with ⟨content, rfl⟩ | placeholder
      · refine .literal (filled content (.head _)) ?_ (braces content after List.suffix_rfl)
        intro next isNext literal
        exact apart.1 next isNext ⟨⟨content, rfl⟩, literal⟩
      · exact .placeholder placeholder
    · rw [← source, List.flatMap_cons]
    · constructor
      · rfl
      · exact fun content member => filled content (.tail _ member)
      · exact apart.2
      · exact fun one member => placeholders one (.tail _ member)
      · exact fun content behind suffix =>
          braces content behind (suffix.trans (List.suffix_cons _ _))
  · rintro ⟨fits, rest, rfl, source, filled, apart, placeholders, braces⟩
    constructor
    · rw [List.flatMap_cons, source]
    · intro content member
      rcases List.mem_cons.mp member with rfl | later
      · exact fits.ofLiteral.1
      · exact filled content later
    · refine List.isChain_cons.mpr ⟨?_, apart⟩
      rintro next isNext ⟨⟨content, rfl⟩, second⟩
      exact fits.ofLiteral.2.1 next isNext second
    · intro one member
      rcases List.mem_cons.mp member with rfl | later
      · cases fits with
        | placeholder placeholder => exact .inr placeholder
        | literal _ _ _ => exact .inl ⟨_, rfl⟩
      · exact placeholders one later
    · intro content behind suffix
      rcases List.suffix_cons_iff.mp suffix with same | later
      · cases same
        exact fits.ofLiteral.2.2
      · exact braces content behind later

theorem Tokenizes.character {text : Text} {character : Char} {segments : List Segment}
    (tokenizes : Tokenizes text segments)
    (starts : character = '{' → readPlaceholder? text = none) :
    Tokenizes (character :: text) (consSegment character segments) := by
  unfold consSegment
  split
  next content after =>
    obtain ⟨fits, rest, rfl, behind⟩ := tokenizes_cons_iff.mp tokenizes
    obtain ⟨-, stops, closed⟩ := fits.ofLiteral
    refine tokenizes_cons_iff.mpr ⟨?_, rest, rfl, behind⟩
    refine .literal (List.cons_ne_nil _ _) stops ?_
    intro inner suffix
    rcases List.suffix_cons_iff.mp suffix with first | later
    · obtain ⟨rfl, rfl⟩ := List.cons.inj first
      rw [behind.source]
      exact starts rfl
    · exact closed inner later
  next noLiteral =>
    refine tokenizes_cons_iff.mpr ⟨.literal (List.cons_ne_nil _ _) ?_ ?_, text, rfl, tokenizes⟩
    · rintro next isNext ⟨content, rfl⟩
      obtain ⟨after, rfl⟩ := List.head?_eq_some_iff.mp isNext
      exact noLiteral content after rfl
    · intro inner suffix
      rcases List.suffix_cons_iff.mp suffix with first | later
      · obtain ⟨rfl, rfl⟩ := List.cons.inj first
        rw [tokenizes.source]
        exact starts rfl
      · simp at later

theorem tokenize_tokenizes (text : Text) : Tokenizes text (tokenize text) := by
  fun_induction tokenize text with
  | case1 => exact tokenizes_nil_iff.mpr rfl
  | case2 character rest segment after found ih =>
      split at found
      next brace =>
        obtain ⟨placeholder, shape⟩ := readPlaceholder?_eq_some_iff.mp found
        rw [brace, shape]
        exact tokenizes_cons_iff.mpr ⟨.placeholder placeholder, after, rfl, ih⟩
      next => cases found
  | case3 character rest missing ih =>
      refine ih.character ?_
      intro brace
      simpa [brace] using missing

theorem tokenize_placeholder {segment : Segment} (placeholder : segment.IsPlaceholder)
    (rest : Text) : tokenize (segment.source ++ rest) = segment :: tokenize rest := by
  obtain ⟨inner, -, source, -⟩ := placeholder.inner
  have shape : segment.source ++ rest = '{' :: (inner ++ closeBrace ++ rest) := by
    rw [source]
    simp [inBraces, openBrace]
  have found := readPlaceholder?_eq_some_iff.mpr ⟨placeholder, shape.symm⟩
  rw [shape, tokenize]
  split
  next one after again =>
    rw [if_pos rfl, found] at again
    cases again
    rfl
  next missing =>
    rw [if_pos rfl, found] at missing
    cases missing

theorem tokenize_character {character : Char} {rest : Text}
    (starts : character = '{' → readPlaceholder? rest = none) :
    tokenize (character :: rest) = consSegment character (tokenize rest) := by
  rw [tokenize]
  split
  next one after found =>
    split at found
    next brace =>
      rw [starts brace] at found
      cases found
    next => cases found
  next => rfl

theorem tokenize_literal {content : Text} (filled : content ≠ []) {after : List Segment}
    (stops : ∀ next ∈ after.head?, ¬ next.IsLiteral) {rest : Text}
    (behind : tokenize rest = after)
    (braces : ∀ inner, '{' :: inner <:+ content → readPlaceholder? (inner ++ rest) = none) :
    tokenize (content ++ rest) = .literal content :: after := by
  induction content with
  | nil => exact absurd rfl filled
  | cons character content ih =>
      have starts : character = '{' → readPlaceholder? (content ++ rest) = none := by
        rintro rfl
        exact braces content List.suffix_rfl
      rw [List.cons_append, tokenize_character starts]
      cases content with
      | nil =>
          rw [List.nil_append, behind, consSegment]
          rintro text segments rfl
          exact stops (.literal text) rfl ⟨text, rfl⟩
      | cons next content =>
          rw [ih (List.cons_ne_nil _ _) fun inner suffix =>
            braces inner (suffix.trans (List.suffix_cons _ _))]
          rfl

theorem tokenize_eq_iff {text : Text} {segments : List Segment} :
    tokenize text = segments ↔ Tokenizes text segments := by
  constructor
  · rintro rfl
    exact tokenize_tokenizes text
  · intro tokenizes
    induction segments generalizing text with
    | nil =>
        rw [tokenizes_nil_iff.mp tokenizes, tokenize]
    | cons segment after ih =>
        obtain ⟨fits, rest, rfl, behind⟩ := tokenizes_cons_iff.mp tokenizes
        cases fits with
        | placeholder placeholder => rw [tokenize_placeholder placeholder, ih behind]
        | literal filled stops closed =>
            rw [behind.source] at closed
            exact tokenize_literal filled stops (ih behind) closed

/-! Resolving a cell. -/

theorem resolveCell_deferred_iff (places : Places) (text : Text) :
    (resolveCell places text).deferred = true ↔
      .page ∈ cellSegments text ∨ .totalPages ∈ cellSegments text := by
  change (cellSegments text).any Segment.isDeferred = true ↔ _
  rw [List.any_eq_true]
  constructor
  · rintro ⟨segment, member, deferred⟩
    cases segment with
    | page => exact .inl member
    | totalPages => exact .inr member
    | literal _ | date _ | logo _ _ => cases deferred
  · rintro (member | member)
    · exact ⟨_, member, rfl⟩
    · exact ⟨_, member, rfl⟩

/-- Every text is divided in this one way, where exactly the placeholders are read. A cell waits for
the layout if one of its segments counts pages, and queues one copy for each logo, in order. -/
theorem tokenize_lossless (text : Text) (places : Places) :
    (Tokenizes text (tokenize text) ∧
      ∀ segments, Tokenizes text segments → segments = tokenize text) ∧
    (∀ rest segment after, readPlaceholder? rest = some (segment, after) ↔
      segment.IsPlaceholder ∧ '{' :: rest = segment.source ++ after) ∧
    ((resolveCell places text).deferred = true ↔
      .page ∈ tokenize (emphasize text) ∨ .totalPages ∈ tokenize (emphasize text)) ∧
    cellCopies places text =
      ((tokenize (emphasize text)).filterMap Segment.token?).map (logoCopy places ·.path) := by
  refine ⟨⟨tokenize_tokenizes text, ?_⟩, ?_, ?_, ?_⟩
  · intro segments tokenizes
    exact (tokenize_eq_iff.mpr tokenizes).symm
  · intro rest segment after
    exact readPlaceholder?_eq_some_iff
  · exact resolveCell_deferred_iff places text
  · exact cellCopies_tokens places text

example : tokenize r"{date:}{logo:a/b.png:2em:}" =
    [.literal "{date:}", .logo "a/b.png" (some "2em:")] := by
  decide +kernel

end Compositor.Markup
