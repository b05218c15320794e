import CompileService.Preview
import CompileService.Proofs.Text.Split
import CompileService.Text.Breaks

/-!
# What a preview page loads

A page says on each of its lines at most one thing that a browser has to load. Read line by line, it
gives back what it was rendered from: an address may look like an element, or like the end of one,
but it stands behind the opening of its own line and before the closing.

* `Element.ofLine?`, `elements`: what a line loads, and what a page loads.
* `lines_render`: the lines of a page.
* `ofLine?_stylesheet`, `ofLine?_script`: the lines of the two lists are read.
  `not_mentions_of_mem_opening`, `not_mentions_of_mem_closing`: the others mention no element.
* `render_decodes`: a page gives back its style sheets, its scripts and the script that it is for.
-/

namespace CompileService.Preview

open CodePoint

/-! ## Reading a page -/

/-- What a line of a page loads. -/
inductive Element where
  | stylesheet (href : Text)
  | script (src : Text)
deriving DecidableEq

/-- The text between two given ones. -/
def between? (opening closing t : Text) : Option Text :=
  (Text.dropStart? opening t).bind (Text.dropEnd? closing)

/-- What a line loads: the address in the element on it, which may be indented. -/
def Element.ofLine? (line : Text) : Option Element :=
  let flush := line.dropWhile fun c => c = ofChar ' '
  match between? (lit "<link href='") (lit "' rel='stylesheet'>") flush with
  | some href => some (.stylesheet href)
  | none =>
    let src := between? (lit "<script type=\"text/javascript\" src=\"") (lit "\"></script>") flush
    src.map .script

/-- What a page loads, in the order of its lines. -/
def elements (page : Text) : List Element := (Text.lines page).filterMap Element.ofLine?

/-- A line mentions an element that loads something. -/
def Mentions (line : Text) : Prop := lit "<link" <:+: line ∨ lit "<script" <:+: line

instance (line : Text) : Decidable (Mentions line) :=
  inferInstanceAs (Decidable (_ ∨ _))

/-- What a page is rendered from has no line feeds. -/
def Inline (script : Text) (stylesheets scripts : List Text) : Prop :=
  ∀ t ∈ stylesheets ++ (scripts ++ [script]), lineFeed ∉ t

instance (script : Text) (stylesheets scripts : List Text) :
    Decidable (Inline script stylesheets scripts) :=
  inferInstanceAs (Decidable (∀ _ ∈ _, _))

/-! ## The lines of a page -/

/-- The lines above the elements. -/
def openingLines : List Text :=
  [lit "<!doctype html>", lit "<html>", lit "  <head>",
    indent ++ lit "<meta http-equiv='Content-Type' content='text/html; charset=utf-8'>"]

/-- The lines below the elements. -/
def closingLines : List Text :=
  [lit "  </head>", lit "  <body><noscript>Please enable JavaScript.</noscript></body>",
    lit "</html>"]

section
variable {script : Text} {stylesheets scripts : List Text}

theorem pageLines_eq : pageLines script stylesheets scripts =
    openingLines ++ stylesheets.map (fun href => indent ++ stylesheetTag href) ++
      (scripts ++ [script]).map (fun src => indent ++ scriptTag src) ++ closingLines := rfl

/-- The kinds of lines. -/
theorem mem_pageLines {line : Text} (mem : line ∈ pageLines script stylesheets scripts) :
    line ∈ openingLines ∨ (∃ href ∈ stylesheets, line = indent ++ stylesheetTag href) ∨
      (∃ src ∈ scripts ++ [script], line = indent ++ scriptTag src) ∨ line ∈ closingLines := by
  rw [pageLines_eq, List.mem_append, List.mem_append, List.mem_append] at mem
  rcases mem with ((opening | sheet) | element) | closing
  · exact .inl opening
  · obtain ⟨href, given, rfl⟩ := List.mem_map.1 sheet
    exact .inr (.inl ⟨href, given, rfl⟩)
  · obtain ⟨src, given, rfl⟩ := List.mem_map.1 element
    exact .inr (.inr (.inl ⟨src, given, rfl⟩))
  · exact .inr (.inr (.inr closing))

/-- The line of an element has no line feed if the address has none. -/
theorem lineFeed_not_mem_element {opening closing address : Text}
    (noFeed : lineFeed ∉ indent ++ opening ++ closing) (free : lineFeed ∉ address) :
    lineFeed ∉ indent ++ (opening ++ address ++ closing) := by
  simp only [List.mem_append, not_or] at noFeed ⊢
  exact ⟨noFeed.1.1, ⟨noFeed.1.2, free⟩, noFeed.2⟩

theorem lineFeed_not_mem_opening : ∀ line ∈ openingLines, lineFeed ∉ line := by decide +kernel

theorem lineFeed_not_mem_closing : ∀ line ∈ closingLines, lineFeed ∉ line := by decide +kernel

/-- A page has the lines that it was put together from, and nothing after the last of them. -/
theorem lines_render (inline : Inline script stylesheets scripts) :
    Text.lines (render script stylesheets scripts) =
      pageLines script stylesheets scripts ++ [[]] := by
  apply Text.splitAt_flatMap
  intro line mem
  rcases mem_pageLines mem with opening | ⟨href, given, rfl⟩ | ⟨src, given, rfl⟩ | closing
  · exact lineFeed_not_mem_opening line opening
  · unfold stylesheetTag
    exact lineFeed_not_mem_element (by decide) (inline href (List.mem_append_left _ given))
  · unfold scriptTag
    exact lineFeed_not_mem_element (by decide) (inline src (List.mem_append_right _ given))
  · exact lineFeed_not_mem_closing line closing

end

/-! ## What the lines say -/

theorem between?_append (opening closing t : Text) :
    between? opening closing (opening ++ t ++ closing) = some t := by
  rw [between?, List.append_assoc, Text.dropStart?_append, Option.bind_some, Text.dropEnd?_append]

/-- The line of a style sheet is read as its address, whatever that looks like. -/
theorem ofLine?_stylesheet (href : Text) :
    Element.ofLine? (indent ++ stylesheetTag href) = some (.stylesheet href) := by
  have flush : (indent ++ stylesheetTag href).dropWhile (fun c => c = ofChar ' ') =
      stylesheetTag href := by
    simp +decide [indent, stylesheetTag, lit]
  rw [Element.ofLine?, flush, stylesheetTag, between?_append]

/-- The line of a script is read as its address: no script is opened as a style sheet is. -/
theorem ofLine?_script (src : Text) :
    Element.ofLine? (indent ++ scriptTag src) = some (.script src) := by
  have flush : (indent ++ scriptTag src).dropWhile (fun c => c = ofChar ' ') =
      scriptTag src := by
    simp +decide [indent, scriptTag, lit]
  have noSheet : between? (lit "<link href='") (lit "' rel='stylesheet'>") (scriptTag src) =
      none := by
    simp +decide [between?, scriptTag, lit, Text.dropStart?]
  rw [Element.ofLine?, flush, noSheet, scriptTag, between?_append]
  rfl

theorem not_mentions_of_mem_opening : ∀ line ∈ openingLines, ¬ Mentions line := by decide +kernel

theorem not_mentions_of_mem_closing : ∀ line ∈ closingLines, ¬ Mentions line := by decide +kernel

section
variable {script : Text} {stylesheets scripts : List Text}

/-- A page loads its style sheets and then its scripts. -/
theorem elements_render (inline : Inline script stylesheets scripts) :
    elements (render script stylesheets scripts) =
      stylesheets.map .stylesheet ++ (scripts ++ [script]).map .script := by
  have sheets : (stylesheets.map fun href => indent ++ stylesheetTag href).filterMap
      Element.ofLine? = stylesheets.map .stylesheet := by
    rw [List.filterMap_map, ← List.filterMap_eq_map]
    exact congrArg (List.filterMap · stylesheets) (funext ofLine?_stylesheet)
  have loaded : ((scripts ++ [script]).map fun src => indent ++ scriptTag src).filterMap
      Element.ofLine? = (scripts ++ [script]).map .script := by
    rw [List.filterMap_map, ← List.filterMap_eq_map]
    exact congrArg (List.filterMap · (scripts ++ [script])) (funext ofLine?_script)
  have opening : openingLines.filterMap Element.ofLine? = [] := by decide +kernel
  have closing : (closingLines ++ [[]]).filterMap Element.ofLine? = [] := by decide +kernel
  rw [elements, lines_render inline, pageLines_eq, List.append_assoc, List.filterMap_append,
    List.filterMap_append, List.filterMap_append, opening, sheets, loaded, closing]
  simp

/-- A line of a page that mentions an element is read as one. -/
theorem isSome_of_mentions (inline : Inline script stylesheets scripts) {line : Text}
    (mem : line ∈ Text.lines (render script stylesheets scripts)) (mentions : Mentions line) :
    (Element.ofLine? line).isSome := by
  rw [lines_render inline, List.mem_append] at mem
  rcases mem with among | last
  · rcases mem_pageLines among with opening | ⟨href, -, rfl⟩ | ⟨src, -, rfl⟩ | closing
    · exact absurd mentions (not_mentions_of_mem_opening line opening)
    · rw [ofLine?_stylesheet]
      rfl
    · rw [ofLine?_script]
      rfl
    · exact absurd mentions (not_mentions_of_mem_closing line closing)
  · rw [List.mem_singleton.1 last] at mentions
    exact absurd mentions (by decide)

/-! ## From a page to what it was rendered from -/

/-- The address of a style sheet. -/
def Element.href? : Element → Option Text
  | .stylesheet href => some href
  | .script _ => none

/-- The address of a script. -/
def Element.src? : Element → Option Text
  | .stylesheet _ => none
  | .script src => some src

theorem hrefs_append (stylesheets scripts : List Text) :
    (stylesheets.map Element.stylesheet ++ scripts.map Element.script).filterMap Element.href? =
      stylesheets := by
  rw [List.filterMap_append, List.filterMap_map, List.filterMap_map]
  simp [Function.comp_def, Element.href?]

theorem srcs_append (stylesheets scripts : List Text) :
    (stylesheets.map Element.stylesheet ++ scripts.map Element.script).filterMap Element.src? =
      scripts := by
  rw [List.filterMap_append, List.filterMap_map, List.filterMap_map]
  simp [Function.comp_def, Element.src?]

/-- Read line by line, a page gives back what it was rendered from: the style sheets in order, then
the scripts in order, and the script that the page is for as the last one. No other line of it
mentions such an element, and no other page is the same. -/
theorem render_decodes (inline : Inline script stylesheets scripts) :
    elements (render script stylesheets scripts) =
        stylesheets.map .stylesheet ++ scripts.map .script ++ [.script script] ∧
      (∀ line ∈ Text.lines (render script stylesheets scripts),
        Mentions line → (Element.ofLine? line).isSome) ∧
      ∀ other sheets others, Inline other sheets others →
        render other sheets others = render script stylesheets scripts →
        other = script ∧ sheets = stylesheets ∧ others = scripts := by
  refine ⟨?_, fun line => isSome_of_mentions inline, ?_⟩
  · rw [elements_render inline, List.map_append, List.append_assoc]
    rfl
  · intro other sheets others otherInline same
    have read : sheets.map Element.stylesheet ++ (others ++ [other]).map Element.script =
        stylesheets.map Element.stylesheet ++ (scripts ++ [script]).map Element.script := by
      rw [← elements_render otherInline, same, elements_render inline]
    -- the kinds of the elements tell the two lists apart, and the last script is the one of the page
    have hrefs := congrArg (List.filterMap Element.href?) read
    rw [hrefs_append, hrefs_append] at hrefs
    have srcs := congrArg (List.filterMap Element.src?) read
    rw [srcs_append, srcs_append] at srcs
    obtain ⟨before, last⟩ := List.append_inj' srcs rfl
    exact ⟨List.head_eq_of_cons_eq last, hrefs, before⟩

/-- Addresses that look like elements, like the end of one or like a line of the page are read back
as they are, and the page is another one if a script moves from one place to the other. -/
theorem render_decodes_lookalikes :
    Inline (lit "main.js") [lit "' rel='stylesheet'>", lit "</head>"]
      [lit "<link href='a.css' rel='stylesheet'>", []] ∧
    elements (render (lit "main.js") [lit "' rel='stylesheet'>", lit "</head>"]
        [lit "<link href='a.css' rel='stylesheet'>", []]) =
      [.stylesheet (lit "' rel='stylesheet'>"), .stylesheet (lit "</head>"),
        .script (lit "<link href='a.css' rel='stylesheet'>"), .script [],
        .script (lit "main.js")] ∧
    Inline [] [lit "' rel='stylesheet'>", lit "</head>"]
      [lit "<link href='a.css' rel='stylesheet'>", lit "main.js"] ∧
    render [] [lit "' rel='stylesheet'>", lit "</head>"]
        [lit "<link href='a.css' rel='stylesheet'>", lit "main.js"] ≠
      render (lit "main.js") [lit "' rel='stylesheet'>", lit "</head>"]
        [lit "<link href='a.css' rel='stylesheet'>", []] := by
  have inline : Inline (lit "main.js") [lit "' rel='stylesheet'>", lit "</head>"]
      [lit "<link href='a.css' rel='stylesheet'>", []] := by decide +kernel
  have moved : Inline [] [lit "' rel='stylesheet'>", lit "</head>"]
      [lit "<link href='a.css' rel='stylesheet'>", lit "main.js"] := by decide +kernel
  obtain ⟨read, -, apart⟩ := render_decodes inline
  refine ⟨inline, read, moved, fun same => ?_⟩
  have empty : [] = lit "main.js" := (apart _ _ _ moved same).1
  revert empty
  decide

end

end CompileService.Preview
