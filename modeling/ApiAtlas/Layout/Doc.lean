/-!
# Line breaking

A document is a sequence of texts, gaps and boxes. A gap is a place where a line may end: it is
either a number of blanks, or a line break and an indent. A box that fits the line has none of its
gaps broken; one that does not has all of them broken if it is consistent, and otherwise those
behind which the text up to the next gap does not fit. Widths are counted in bytes.

How much must fit is `reach`: the width up to the next gap of the same box or of a box around it.
-/

namespace ApiAtlas.Layout

/-- A place where a line may end. -/
structure Gap where
  /-- The blanks that are written if the line goes on. -/
  blank : Nat := 0
  /-- The change of the indent if the line ends. -/
  offset : Int := 0
  /-- The text that is written before a line break. -/
  atBreak : String := ""
  /-- Whether the line always goes on. -/
  isFixed : Bool := false
  deriving DecidableEq, Repr

/-- Which gaps of a box that does not fit are broken. -/
inductive Style where
  | consistent
  | inconsistent
  deriving DecidableEq, Repr

inductive Doc where
  | text (s : String)
  | gap (g : Gap)
  /-- A box that indents broken lines, and counts as too wide if its content is wider than the
  limit. -/
  | box (style : Style) (indent : Int) (limit : Option Nat) (content : List Doc)

/-- A width that fits no line. -/
def tooWide : Nat := 65535

def margin : Int := 89

/-- The width that is left for text however deep the indent is. -/
def leastSpace : Int := 60

/-- The width of a box, given the width of its content. -/
def boxWidth (limit : Option Nat) (content : Nat) : Nat :=
  match limit with
  | some most => if most < content then content + tooWide else content
  | none => content

mutual

def Doc.width : Doc → Nat
  | .text s => s.utf8ByteSize
  | .gap g => g.blank
  | .box _ _ limit content => boxWidth limit (widthOf content)

def widthOf : List Doc → Nat
  | [] => 0
  | d :: rest => d.width + widthOf rest

end

/-- The width of a sequence up to its first own gap, or of all of it and what follows. -/
def reach (following : Nat) : List Doc → Nat
  | [] => following
  | .gap _ :: _ => 0
  | d :: rest => d.width + reach following rest

theorem reach_append (following : Nat) (front back : List Doc) :
    reach following (front ++ back) = reach (reach following back) front := by
  induction front with
  | nil => rfl
  | cons d rest ih => cases d <;> simp [reach, ih]

/-- How the gaps of the box at hand are treated, and the indent of its broken lines. -/
structure Frame where
  /-- The style of a box that does not fit; `none` for one that fits. -/
  broken : Option Style
  indent : Int

/-- What has been written. -/
structure Page where
  output : String := ""
  /-- The width that is left on the line. -/
  space : Int := margin
  /-- The blanks to write before the next text. -/
  pending : Int := 0

namespace Page

def write (page : Page) (s : String) : Page :=
  { output := page.output ++ String.ofList (List.replicate page.pending.toNat ' ') ++ s
    space := page.space - s.utf8ByteSize
    pending := 0 }

def skip (page : Page) (blank : Nat) : Page :=
  { page with pending := page.pending + blank, space := page.space - blank }

def breakLine (page : Page) (g : Gap) (indent : Int) : Page :=
  let page := if g.atBreak.isEmpty then page else page.write g.atBreak
  let pending := indent + g.offset
  { output := page.output ++ "\n", space := max (margin - pending) leastSpace, pending }

end Page

/-- Whether the line goes on at a gap, given the width that would follow on it. -/
def Frame.goesOn (frame : Frame) (g : Gap) (size space : Int) : Bool :=
  g.isFixed ||
    match frame.broken with
    | none => true
    | some .consistent => false
    | some .inconsistent => size ≤ space

mutual

/-- Writes a document, given the width up to the next gap behind it. -/
def Doc.layout (frame : Frame) (following : Nat) (page : Page) : Doc → Page
  | .text s => page.write s
  | .gap g =>
    if frame.goesOn g (g.blank + following : Nat) page.space then page.skip g.blank
    else page.breakLine g frame.indent
  | .box style indent limit content =>
    let size : Int := (boxWidth limit (widthOf content) + following : Nat)
    let inner : Frame :=
      if page.space < size then ⟨some style, frame.indent + indent⟩ else ⟨none, frame.indent⟩
    layoutAll inner following page content

/-- Writes a sequence of documents, given the width up to the next gap behind it. -/
def layoutAll (frame : Frame) (following : Nat) (page : Page) : List Doc → Page
  | [] => page
  | d :: rest => layoutAll frame following (d.layout frame (reach following rest) page) rest

end

theorem layoutAll_append (frame : Frame) (following : Nat) (page : Page) (front back : List Doc) :
    layoutAll frame following page (front ++ back) =
      layoutAll frame following (layoutAll frame (reach following back) page front) back := by
  induction front generalizing page with
  | nil => simp [layoutAll]
  | cons d rest ih => simp [layoutAll, ih, reach_append]

def render (docs : List Doc) : String := (layoutAll ⟨some .inconsistent, 0⟩ 0 {} docs).output

end ApiAtlas.Layout
