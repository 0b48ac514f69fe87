import PageExtract.Html.Builder

/-! Elements of other namespaces inside a page: their names keep inner capitals, some attributes
have namespaces, and markup of the page itself ends them. -/
namespace PageExtract.Html.Build

def graphicsNames : List String :=
  ["altGlyph", "altGlyphDef", "altGlyphItem", "animateColor", "animateMotion", "animateTransform",
   "clipPath", "feBlend", "feColorMatrix", "feComponentTransfer", "feComposite",
   "feConvolveMatrix", "feDiffuseLighting", "feDisplacementMap", "feDistantLight", "feDropShadow",
   "feFlood", "feFuncA", "feFuncB", "feFuncG", "feFuncR", "feGaussianBlur", "feImage", "feMerge",
   "feMergeNode", "feMorphology", "feOffset", "fePointLight", "feSpecularLighting", "feSpotLight",
   "feTile", "feTurbulence", "foreignObject", "glyphRef", "linearGradient", "radialGradient",
   "textPath"]

def graphicsAttributes : List String :=
  ["attributeName", "attributeType", "baseFrequency", "baseProfile", "calcMode", "clipPathUnits",
   "diffuseConstant", "edgeMode", "filterUnits", "glyphRef", "gradientTransform", "gradientUnits",
   "kernelMatrix", "kernelUnitLength", "keyPoints", "keySplines", "keyTimes", "lengthAdjust",
   "limitingConeAngle", "markerHeight", "markerUnits", "markerWidth", "maskContentUnits",
   "maskUnits", "numOctaves", "pathLength", "patternContentUnits", "patternTransform",
   "patternUnits", "pointsAtX", "pointsAtY", "pointsAtZ", "preserveAlpha", "preserveAspectRatio",
   "primitiveUnits", "refX", "refY", "repeatCount", "repeatDur", "requiredExtensions",
   "requiredFeatures", "specularConstant", "specularExponent", "spreadMethod", "startOffset",
   "stdDeviation", "stitchTiles", "surfaceScale", "systemLanguage", "tableValues", "targetX",
   "targetY", "textLength", "viewBox", "viewTarget", "xChannelSelector", "yChannelSelector",
   "zoomAndPan"]

def respell (names : List String) (name : String) : String :=
  (names.find? fun full => full.map Char.toLower == name).getD name

def spacedAttributes : List (String × AttributeSpace × String) :=
  [("xlink:actuate", .xlink, "actuate"), ("xlink:arcrole", .xlink, "arcrole"),
   ("xlink:href", .xlink, "href"), ("xlink:role", .xlink, "role"), ("xlink:show", .xlink, "show"),
   ("xlink:title", .xlink, "title"), ("xlink:type", .xlink, "type"), ("xml:lang", .xml, "lang"),
   ("xml:space", .xml, "space"), ("xmlns", .xmlns, "xmlns"), ("xmlns:xlink", .xmlns, "xlink")]

def foreignAttribute (space : Namespace) (name value : String) : Attribute :=
  let spelled := match space with
    | .svg => respell graphicsAttributes name
    | .mathml => if name == "definitionurl" then "definitionURL" else name
    | .html => name
  match spacedAttributes.find? fun known => known.1 == spelled with
  | some (_, attributeSpace, localName) => ⟨attributeSpace, localName, value⟩
  | none => ⟨.plain, spelled, value⟩

def insertForeign (space : Namespace) (tag : Tag) : Build Unit := do
  let attributes := tag.attributes.map fun a => foreignAttribute space a.1 a.2
  let _ ← openElement space tag.name attributes
  if tag.selfClosing then pop

def breakouts : List String :=
  ["b", "big", "blockquote", "body", "br", "center", "code", "dd", "div", "dl", "dt", "em",
   "embed", "h1", "h2", "h3", "h4", "h5", "h6", "head", "hr", "i", "img", "li", "listing", "menu",
   "meta", "nobr", "ol", "p", "pre", "ruby", "s", "small", "span", "strong", "strike", "sub",
   "sup", "table", "tt", "u", "ul", "var"]

def breaksOut (tag : Tag) : Bool :=
  breakouts.contains tag.name
    || (tag.name == "font" && tag.attributes.any fun a => ["color", "face", "size"].contains a.1)

def holdsMarkup (name : Namespace × String) : Bool :=
  name.1 == .html || isMathText name || isGraphicsMarkup name

def leaveForeign : Build Unit :=
  modify fun b =>
    { b with
      opened := b.opened.dropWhile fun id => !(b.arena.elementName? id).all holdsMarkup }

def foreignOpening (tag : Tag) : Build Unit := do
  let (space, _) ← nameOf (← current)
  match space with
  | .svg => insertForeign .svg { tag with name := respell graphicsNames tag.name }
  | _ => insertForeign space tag

/-- What an end tag among foreign elements closes: the rest of the open elements, or nothing when
the page's own rules decide. -/
def closedForeign? (arena : Arena) (name : String) : Bool → List Nat → Option (List Nat)
  | _, [] => none
  | first, id :: outer =>
    let (space, own) := (arena.elementName? id).getD (.html, "")
    if !first && space == .html then none
    else if own.map Char.toLower == name then some outer
    else closedForeign? arena name false outer

def isForeign (piece : Piece) : Build Bool := do
  let b ← get
  match b.opened with
  | [] => return false
  | id :: _ =>
    let name := (b.arena.elementName? id).getD (.html, "")
    if name.1 == .html then return false
    else
      match piece with
      | .finish => return false
      | .char _ => return !(isMathText name || isGraphicsMarkup name)
      | .opening tag =>
        let inMath := isMathText name && !(["mglyph", "malignmark"].contains tag.name)
        let nested := name == (.mathml, "annotation-xml") && tag.name == "svg"
        return !(inMath || isGraphicsMarkup name || nested)
      | _ => return true

end PageExtract.Html.Build
