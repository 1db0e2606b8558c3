import MarkdownTree.Proofs.Html.Markup
import MarkdownTree.Proofs.Html.Reader
import MarkdownTree.Proofs.Processing.Reachable
import Mathlib.Data.List.TakeWhile

/-! Rendered HTML reads back: what the reader makes of it is the tree of elements and texts that the
nodes stand for. -/

namespace MarkdownTree

/-- The words of a text: the parts between the blanks that are not empty. -/
def words (text : String) : List String :=
  ((text.toList.splitOnP isBlank).filter fun word => !word.isEmpty).map String.ofList

/-- Whether a node of this kind is written as it stands in the source. -/
def Kind.isRawHtml : Kind → Bool
  | htmlBlock _ | inlineHtml _ => true
  | _ => false

namespace Html

/-- The attribute for a title; an empty title has none. -/
def titlePairs (title : String) : List (String × String) :=
  if title.isEmpty then [] else [("title", title)]

/-- The attribute for the language of a code block, named by the first word of its info text. -/
def languagePairs (info : String) : List (String × String) :=
  match (words info).head? with
  | some language => [("class", "language-" ++ language)]
  | none => []

/-- The element for a list; an ordered one tells its first number unless that is one. -/
def listElement (start : Option Nat) (inner : List Item) : Item :=
  match start with
  | none => .element "ul" [] inner
  | some first => .element "ol" (if first = 1 then [] else [("start", toString first)]) inner

/-- What a node of this kind shows, with its plain text and with what its children show. -/
def shown (kind : Kind) (alternative : String) (inner : List Item) : List Item :=
  match kind with
  | .document => inner
  | .paragraph => [.element "p" [] inner]
  | .heading level => [.element ("h" ++ toString level) [] inner]
  | .blockQuote => [.element "blockquote" [] inner]
  | .alert alert =>
    [.element "div" [("class", "markdown-alert markdown-alert-" ++ alert.title)]
      (.element "p" [("class", "markdown-alert-title")] (Item.text alert.title) :: inner)]
  | .list start => [listElement start inner]
  | .item => [.element "li" [] inner]
  | .codeBlock info literal =>
    [.element "pre" [] [.element "code" (languagePairs info) (Item.text literal)]]
  | .thematicBreak => [.element "hr" [] []]
  | .text literal => Item.text literal
  | .code literal => [.element "code" [] (Item.text literal)]
  | .softBreak => [.char '\n']
  | .hardBreak => [.element "br" [] []]
  | .emphasis => [.element "em" [] inner]
  | .strong => [.element "strong" [] inner]
  | .strikethrough => [.element "s" [] inner]
  | .link target | .linkRef target _ =>
    [.element "a" (("href", target.url) :: titlePairs target.title) inner]
  | .image target | .imageRef target _ =>
    [.element "img" (("src", target.url) :: titlePairs target.title ++ [("alt", alternative)]) []]
  -- Raw HTML may show anything.
  | .htmlBlock _ | .inlineHtml _ => []

end Html

/-- What the subtree of a node shows. -/
def Document.items (doc : Document) (id : NodeId) : List Html.Item :=
  doc.fold (fun id below => Html.shown (doc.kind id) (doc.plainText id) below.flatten) id

/-- The first word is the first of the words. -/
theorem firstWord?_eq (text : String) : firstWord? text = (words text).head? := by
  suffices parts : ∀ chars : List Char,
      ((chars.splitOnP isBlank).filter fun word => !word.isEmpty).head? =
        let word := (chars.dropWhile isBlank).takeWhile fun c => !isBlank c
        if word.isEmpty then none else some word by
    unfold firstWord? words
    rw [List.head?_map, parts]
    dsimp only
    split <;> rfl
  intro chars
  induction chars with
  | nil => rfl
  | cons c rest ih =>
    cases blank : isBlank c with
    | true =>
      -- A blank at the start ends an empty part, which is no word.
      rw [List.splitOnP_cons_eq_if_modifyHead, if_pos blank, List.dropWhile_cons_of_pos blank]
      exact ih
    | false =>
      have noBlank : ¬ isBlank c := by simp [blank]
      rw [List.dropWhile_cons_of_neg noBlank]
      -- The first part runs up to the next blank or to the end, and is a word.
      have first : ((c :: rest).takeWhile fun c => !isBlank c) ≠ [] := by simp [blank]
      have inside : ∀ d ∈ (c :: rest).takeWhile (fun c => !isBlank c), isBlank d = false := by
        intro d member
        simpa using List.mem_takeWhile_imp member
      have split := List.takeWhile_append_dropWhile (p := fun c => !isBlank c) (l := c :: rest)
      have ended := List.head?_dropWhile_not (fun c => !isBlank c) (c :: rest)
      generalize (c :: rest).takeWhile (fun c => !isBlank c) = word at *
      generalize (c :: rest).dropWhile (fun c => !isBlank c) = after at *
      rw [← split]
      cases after with
      | nil =>
        rw [List.append_nil, List.splitOnP_eq_singleton inside]
        simp [first]
      | cons sep more =>
        have separates : isBlank sep = true := by simpa using ended
        rw [List.splitOnP_append_cons_of_forall_mem inside sep separates]
        simp [first]

namespace Html

/-- The title of a link or an image is written as an attribute. -/
theorem titleAttribute_eq (title : String) :
    titleAttribute title = String.join ((titlePairs title).map attributeText) := by
  unfold titleAttribute titlePairs
  split
  · rfl
  · simp [attributeText]

/-- An opening tag begins with its first attribute. -/
theorem openingTag_cons (name key value : String) (others : List (String × String)) :
    openingTag name ((key, value) :: others) = "<" ++ name ++ " " ++ key ++ "=\"" ++
      (escapeHtml value ++ "\"" ++ String.join (others.map attributeText) ++ ">") := by
  simp only [openingTag, tagText, List.map_cons, attributeText, String.join_cons,
    String.append_assoc]

/-- A link opens with its target and its title. -/
theorem linkTag_eq (target : Target) :
    linkTag target = openingTag "a" (("href", target.url) :: titlePairs target.title) := by
  have start : "<" ++ "a" ++ " " ++ "href" ++ "=\"" = "<a href=\"" := rfl
  unfold linkTag
  rw [openingTag_cons, start, titleAttribute_eq]
  simp only [String.append_assoc]

/-- An image tells its source, its title and its text. -/
theorem imageTag_eq (target : Target) (alternative : String) : imageTag target alternative =
    openingTag "img" (("src", target.url) :: titlePairs target.title ++ [("alt", alternative)]) := by
  have start : "<" ++ "img" ++ " " ++ "src" ++ "=\"" = "<img src=\"" := rfl
  have text : attributeText ("alt", alternative) =
      " alt=\"" ++ escapeHtml alternative ++ "\"" := rfl
  unfold imageTag
  rw [List.cons_append, openingTag_cons, start, titleAttribute_eq, List.map_append,
    String.join_append, List.map_singleton, text]
  simp only [String.join_cons, String.join_nil, String.append_empty, String.append_assoc]
  rfl

/-- A code block is code in preformatted text. -/
theorem codeBlock_eq (info literal : String) : codeBlock info literal =
    openingTag "pre" [] ++ (openingTag "code" (languagePairs info) ++ escapeHtml literal ++
      closingTag "code") ++ closingTag "pre" := by
  have stop : "</code></pre>" = closingTag "code" ++ closingTag "pre" := rfl
  unfold codeBlock languagePairs
  rw [firstWord?_eq]
  cases (words info).head? with
  | none =>
    have start : "<pre><code>" = openingTag "pre" [] ++ openingTag "code" [] := rfl
    simp only [start, stop, String.append_assoc]
  | some language =>
    -- The word before the language has no character that would be written otherwise.
    have word : escapeHtml "language-" = "language-" := rfl
    have start : "<pre><code class=\"language-" = openingTag "pre" [] ++
        ("<" ++ "code" ++ " " ++ "class" ++ "=\"" ++ "language-") := rfl
    rw [openingTag_cons, escapeHtml_append, word]
    simp only [start, stop, List.map_nil, String.join_nil, String.append_empty, String.append_assoc]
    rfl

/-- An alert opens with its title. -/
theorem alertOpening_eq (alert : AlertKind) : alertOpening alert =
    openingTag "div" [("class", "markdown-alert markdown-alert-" ++ alert.title)] ++
      (openingTag "p" [("class", "markdown-alert-title")] ++ escapeHtml alert.title ++
        closingTag "p") := by
  -- None of these words has a character that would be written otherwise.
  have title : escapeHtml alert.title = alert.title := by cases alert <;> rfl
  have box : escapeHtml "markdown-alert markdown-alert-" = "markdown-alert markdown-alert-" := rfl
  have start : "<div class=\"markdown-alert markdown-alert-" =
      "<" ++ "div" ++ " " ++ "class" ++ "=\"" ++ "markdown-alert markdown-alert-" := rfl
  have between : "\"><p class=\"markdown-alert-title\">" =
      "\">" ++ openingTag "p" [("class", "markdown-alert-title")] := rfl
  have stop : "</p>" = closingTag "p" := rfl
  rw [openingTag_cons, escapeHtml_append, title, box]
  unfold alertOpening
  simp only [start, between, stop, List.map_nil, String.join_nil, String.append_empty,
    String.append_assoc]
  rfl

/-- A number is written in digits. -/
theorem isDigit_of_mem_toString {number : Nat} {c : Char} (member : c ∈ (toString number).toList) :
    c.isDigit := by
  have digits : (toString number).toList = Nat.toDigits 10 number := Nat.toList_repr
  rw [digits] at member
  exact Nat.isDigit_of_mem_toDigits (by decide) (by decide) member

/-- A number has no character that would be written otherwise. -/
theorem escapeHtml_toString (number : Nat) : escapeHtml (toString number) = toString number := by
  have same : ∀ c ∈ (toString number).toList, escapedChar c = [c] := by
    intro c member
    have digit := isDigit_of_mem_toString member
    -- No digit is one of the five special characters.
    unfold escapedChar
    split <;> first | rfl | exact absurd digit (by decide)
  refine String.toList_inj.mp ?_
  rw [toList_escapeHtml, List.flatMap_congr same, List.flatMap_singleton']

/-- The element for a heading is named by its level. -/
theorem headingTags_eq (level : Nat) :
    s!"<h{level}>" = openingTag ("h" ++ toString level) [] ∧
      s!"</h{level}>" = closingTag ("h" ++ toString level) := by
  constructor
  · refine String.toList_inj.mp ?_
    show ("<h" ++ toString level ++ ">").toList = _
    simp [openingTag, tagText]
  · refine String.toList_inj.mp ?_
    show ("</h" ++ toString level ++ ">").toList = _
    simp [closingTag]

/-- A list that starts at another number than one tells it. -/
theorem listTags_eq {first : Nat} (notOne : first ≠ 1) : listTags (some first) =
    (openingTag "ol" [("start", toString first)], closingTag "ol") := by
  have opening : s!"<ol start=\"{first}\">" = openingTag "ol" [("start", toString first)] := by
    refine String.toList_inj.mp ?_
    show ("<ol start=\"" ++ toString first ++ "\">").toList = _
    simp only [openingTag, tagText, List.map_cons, attributeText, escapeHtml_toString]
    simp
  unfold listTags
  split
  · next none => cases none
  · next one => exact absurd (Option.some.inj one) notOne
  · next some => rw [← Option.some.inj some, opening]; rfl

/-- The name of a heading is one, whatever the level, and not that of an element without content. -/
theorem isName_heading (level : Nat) :
    isName ("h" ++ toString level).toList ∧ isVoid ("h" ++ toString level) = false := by
  have digits : ∀ c ∈ (toString level).toList, c.isDigit := fun c => isDigit_of_mem_toString
  constructor
  · have all : ∀ c ∈ (toString level).toList, c.isAlphanum := fun c member =>
      Bool.or_eq_true_iff.mpr (.inr (digits c member))
    simpa [isName] using all
  · -- The one such name that starts with the same letter goes on with a letter, which is no digit.
    refine decide_eq_false fun member => ?_
    have same : 'h' :: (toString level).toList ∈ [['h', 'r'], ['b', 'r'], ['i', 'm', 'g']] := by
      simpa using List.mem_map_of_mem (f := String.toList) member
    have letter : (toString level).toList = ['r'] := by simpa using same
    exact absurd (digits 'r' (letter ▸ List.mem_singleton_self _)) (by decide)

/-- Titles are written under a name. -/
theorem isName_titlePairs (title : String) : ∀ pair ∈ titlePairs title, isName pair.1.toList := by
  unfold titlePairs
  split <;> simp [isName]

/-- Languages are written under a name. -/
theorem isName_languagePairs (info : String) :
    ∀ pair ∈ languagePairs info, isName pair.1.toList := by
  unfold languagePairs
  split <;> simp [isName]

/-- The markup of every kind reads as what it shows, raw HTML apart. -/
theorem reads_markup {kind : Kind} (plain : kind.isRawHtml = false) (alternative : String)
    {inner : String} {items : List Item} (inside : Reads inner items) :
    Reads (kind.markup alternative inner) (shown kind alternative items) := by
  cases kind with
  | document => exact inside
  -- Most elements have no attributes and differ in their names alone.
  | paragraph => exact inside.element "p" [] rfl (List.forall_mem_nil _) rfl
  | blockQuote => exact inside.element "blockquote" [] rfl (List.forall_mem_nil _) rfl
  | item => exact inside.element "li" [] rfl (List.forall_mem_nil _) rfl
  | emphasis => exact inside.element "em" [] rfl (List.forall_mem_nil _) rfl
  | strong => exact inside.element "strong" [] rfl (List.forall_mem_nil _) rfl
  | strikethrough => exact inside.element "s" [] rfl (List.forall_mem_nil _) rfl
  | thematicBreak => exact reads_void "hr" [] rfl (List.forall_mem_nil _) rfl
  | hardBreak => exact reads_void "br" [] rfl (List.forall_mem_nil _) rfl
  -- A soft break is written as the text that it stands for.
  | softBreak => exact reads_escaped "\n"
  | text literal => exact reads_escaped literal
  | code literal => exact (reads_escaped literal).element "code" [] rfl (List.forall_mem_nil _) rfl
  | heading level =>
    obtain ⟨opening, closing⟩ := headingTags_eq level
    obtain ⟨named, notVoid⟩ := isName_heading level
    have element := inside.element _ [] named (List.forall_mem_nil _) notVoid
    rwa [← opening, ← closing] at element
  | alert alert =>
    -- The paragraph with the title stands before what is inside.
    have title := (reads_escaped alert.title).element "p" [("class", "markdown-alert-title")] rfl
      (by simp [isName]) rfl
    have element := (title.append inside).element "div"
      [("class", "markdown-alert markdown-alert-" ++ alert.title)] rfl (by simp [isName]) rfl
    rw [← String.append_assoc, ← alertOpening_eq] at element
    exact element
  | list start =>
    cases start with
    | none => exact inside.element "ul" [] rfl (List.forall_mem_nil _) rfl
    | some first =>
      have element := fun attributes named => inside.element "ol" attributes rfl named rfl
      by_cases one : first = 1
      · subst one
        exact element [] (List.forall_mem_nil _)
      · have numbered := element [("start", toString first)] (by simp [isName])
        show Reads ((listTags (some first)).1 ++ inner ++ (listTags (some first)).2)
          [.element "ol" (if first = 1 then [] else _) items]
        rwa [listTags_eq one, if_neg one]
  | codeBlock info literal =>
    show Reads (codeBlock info literal) _
    rw [codeBlock_eq]
    have code := (reads_escaped literal).element "code" _ rfl (isName_languagePairs info) rfl
    exact code.element "pre" [] rfl (List.forall_mem_nil _) rfl
  | link target | linkRef target label =>
    show Reads (linkTag target ++ inner ++ closingTag "a") _
    rw [linkTag_eq]
    exact inside.element "a" _ rfl
      (List.forall_mem_cons.mpr ⟨by simp [isName], isName_titlePairs target.title⟩) rfl
  -- What is below an image is not written, but its text is one of the attributes.
  | image target | imageRef target label =>
    show Reads (imageTag target alternative) _
    rw [imageTag_eq]
    refine reads_void "img" _ rfl ?_ rfl
    refine List.forall_mem_append.mpr ⟨?_, ?_⟩
    · exact List.forall_mem_cons.mpr ⟨by simp [isName], isName_titlePairs target.title⟩
    · simp [isName]
  | htmlBlock literal | inlineHtml literal => cases plain

end Html

namespace Document.WellFormed

variable {doc : Document} (wf : doc.WellFormed)
include wf

/-- What a subtree shows is what its top shows, with what the subtrees below show inside. -/
theorem items_eq (id : NodeId) : doc.items id =
    Html.shown (doc.kind id) (doc.plainText id) ((doc.children id).flatMap doc.items) := by
  rw [items, wf.fold_eq, List.flatMap_def]
  rfl

/-- The HTML of a subtree without raw HTML reads as what the subtree shows. -/
theorem reads_renderNode {id : NodeId}
    (plain : ∀ node, doc.isWithin id node → (doc.kind node).isRawHtml = false) :
    Html.Reads (HandlerTable.standard.renderNode doc id) (doc.items id) := by
  induction id using wf.child_induction with
  | step id ih =>
    rw [wf.renderNode_eq, wf.items_eq]
    refine Html.reads_markup (plain id (wf.isWithin_self id)) _
      (Html.reads_join fun child member => ?_)
    -- What is within a child is within the node as well.
    refine ih child member fun node within => plain node ?_
    exact wf.isWithin_iff_child.mpr (.inr ⟨child, member, within⟩)

end Document.WellFormed

/--
Rendered HTML reads back as the tree: of a subtree without raw HTML, whatever its texts, targets,
titles and info texts hold, the reader accepts the whole HTML and finds exactly the elements,
attributes and texts that the nodes stand for.
-/
theorem rendered_html_reads_back {doc : Document} (reachable : doc.Reachable) {id : NodeId}
    (plain : ∀ node ∈ doc.descendants id, (doc.kind node).isRawHtml = false) :
    Html.read? (HandlerTable.standard.renderNode doc id) = some (doc.items id) := by
  have wf := reachable.wellFormed
  have reads := wf.reads_renderNode fun node within => plain node (wf.mem_descendants.mpr within)
  exact reads.read?_eq

/-- A link around an image, with special characters and ready-made entities in all their texts, and a
text after it that looks like a tag. -/
theorem special_characters_read_back :
    let doc := [.create .paragraph {}, .create (.link ⟨"a\"b", "<t>"⟩) {},
        .create (.image ⟨"x&y", ""⟩) {}, .create (.text "&amp;\"") {}, .create (.text "<br>") {},
        .move (.append 0 1), .move (.append 1 2), .move (.append 2 3), .move (.append 3 4),
        .move (.append 1 5)].foldl Document.after (.ofSource "")
    doc.Reachable ∧ (∀ node ∈ doc.descendants 1, (doc.kind node).isRawHtml = false) ∧
      Html.read? (HandlerTable.standard.renderNode doc 1) = some
        [.element "p" []
          [.element "a" [("href", "a\"b"), ("title", "<t>")]
              [.element "img" [("src", "x&y"), ("alt", "&amp;\"")] []],
            .char '<', .char 'b', .char 'r', .char '>']] := by
  intro doc
  have reachable : doc.Reachable := ⟨_, _, rfl⟩
  have plain : ∀ node ∈ doc.descendants 1, (doc.kind node).isRawHtml = false := by decide +kernel
  exact ⟨reachable, plain, rendered_html_reads_back reachable plain⟩

end MarkdownTree
