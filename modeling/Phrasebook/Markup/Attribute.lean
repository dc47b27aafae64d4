/-!
Attribute names that configure markup.

A string under one of these names is no text for the reader unless the configuration says so. Any
other name is taken for a component property, which may carry visible text.
-/

namespace Phrasebook.Markup

/-- Properties that React gives a meaning of its own. -/
def reactAttributes : List String :=
  ["children", "dangerouslySetInnerHTML", "key", "ref", "autoFocus", "defaultValue",
   "defaultChecked", "innerHTML", "suppressContentEditableWarning", "suppressHydrationWarning",
   "valueLink"]

def htmlAttributes : List String :=
  ["abbr", "accept", "acceptCharset", "accessKey", "action", "allow", "allowFullScreen",
   "allowPaymentRequest", "allowTransparency", "alt", "as", "async", "autoCapitalize",
   "autoComplete", "autoCorrect", "autoPlay", "autoSave", "capture", "cellPadding", "cellSpacing",
   "challenge", "charSet", "checked", "cite", "classID", "className", "cols", "colSpan",
   "content", "contentEditable", "contextMenu", "controls", "controlsList", "coords",
   "crossOrigin", "data", "dateTime", "decoding", "default", "defer", "dir", "disabled",
   "disablePictureInPicture", "disableRemotePlayback", "download", "draggable", "encType",
   "enterKeyHint", "fetchpriority", "fetchPriority", "form", "formAction", "formEncType",
   "formMethod", "formNoValidate", "formTarget", "frameBorder", "headers", "height", "hidden",
   "high", "href", "hrefLang", "htmlFor", "httpEquiv", "id", "inert", "inputMode", "integrity",
   "is", "itemID", "itemProp", "itemRef", "itemScope", "itemType", "keyParams", "keyType", "kind",
   "lang", "list", "loading", "loop", "low", "marginHeight", "marginWidth", "max", "maxLength",
   "media", "mediaGroup", "method", "min", "minLength", "multiple", "muted", "name", "nonce",
   "noValidate", "open", "optimum", "pattern", "placeholder", "playsInline", "popover",
   "popoverTarget", "popoverTargetAction", "poster", "preload", "profile", "radioGroup",
   "readOnly", "referrerPolicy", "rel", "required", "reversed", "role", "rows", "rowSpan",
   "sandbox", "scope", "scoped", "scrolling", "seamless", "selected", "shape", "size", "sizes",
   "slot", "span", "spellCheck", "src", "srcDoc", "srcLang", "srcSet", "start", "step", "style",
   "summary", "tabIndex", "target", "title", "translate", "type", "useMap", "value", "width",
   "wmode", "wrap"]

def svgAttributes : List String :=
  ["about", "datatype", "inlist", "prefix", "property", "resource", "typeof", "vocab",
   "accentHeight", "accumulate", "additive", "alignmentBaseline", "allowReorder", "alphabetic",
   "amplitude", "arabicForm", "ascent", "attributeName", "attributeType", "autoReverse",
   "azimuth", "baseFrequency", "baselineShift", "baseProfile", "bbox", "begin", "bias", "by",
   "calcMode", "capHeight", "clip", "clipPath", "clipPathUnits", "clipRule", "color",
   "colorInterpolation", "colorInterpolationFilters", "colorProfile", "colorRendering",
   "contentScriptType", "contentStyleType", "cursor", "cx", "cy", "d", "decelerate", "descent",
   "diffuseConstant", "direction", "display", "divisor", "dominantBaseline", "dur", "dx", "dy",
   "edgeMode", "elevation", "enableBackground", "end", "exponent", "externalResourcesRequired",
   "fill", "fillOpacity", "fillRule", "filter", "filterRes", "filterUnits", "floodColor",
   "floodOpacity", "focusable", "fontFamily", "fontSize", "fontSizeAdjust", "fontStretch",
   "fontStyle", "fontVariant", "fontWeight", "format", "from", "fr", "fx", "fy", "g1", "g2",
   "glyphName", "glyphOrientationHorizontal", "glyphOrientationVertical", "glyphRef",
   "gradientTransform", "gradientUnits", "hanging", "horizAdvX", "horizOriginX", "ideographic",
   "imageRendering", "in", "in2", "intercept", "k", "k1", "k2", "k3", "k4", "kernelMatrix",
   "kernelUnitLength", "kerning", "keyPoints", "keySplines", "keyTimes", "lengthAdjust",
   "letterSpacing", "lightingColor", "limitingConeAngle", "local", "markerEnd", "markerMid",
   "markerStart", "markerHeight", "markerUnits", "markerWidth", "mask", "maskContentUnits",
   "maskUnits", "mathematical", "mode", "numOctaves", "offset", "opacity", "operator", "order",
   "orient", "orientation", "origin", "overflow", "overlinePosition", "overlineThickness",
   "panose1", "paintOrder", "pathLength", "patternContentUnits", "patternTransform",
   "patternUnits", "pointerEvents", "points", "pointsAtX", "pointsAtY", "pointsAtZ",
   "preserveAlpha", "preserveAspectRatio", "primitiveUnits", "r", "radius", "refX", "refY",
   "renderingIntent", "repeatCount", "repeatDur", "requiredExtensions", "requiredFeatures",
   "restart", "result", "rotate", "rx", "ry", "scale", "seed", "shapeRendering", "slope",
   "spacing", "specularConstant", "specularExponent", "speed", "spreadMethod", "startOffset",
   "stdDeviation", "stemh", "stemv", "stitchTiles", "stopColor", "stopOpacity",
   "strikethroughPosition", "strikethroughThickness", "string", "stroke", "strokeDasharray",
   "strokeDashoffset", "strokeLinecap", "strokeLinejoin", "strokeMiterlimit", "strokeOpacity",
   "strokeWidth", "surfaceScale", "systemLanguage", "tableValues", "targetX", "targetY",
   "textAnchor", "textDecoration", "textLength", "textRendering", "to", "transform", "u1", "u2",
   "underlinePosition", "underlineThickness", "unicode", "unicodeBidi", "unicodeRange",
   "unitsPerEm", "vAlphabetic", "vHanging", "vIdeographic", "vMathematical", "values",
   "vectorEffect", "version", "vertAdvY", "vertOriginX", "vertOriginY", "viewBox", "viewTarget",
   "visibility", "widths", "wordSpacing", "writingMode", "x", "xHeight", "x1", "x2",
   "xChannelSelector", "xlinkActuate", "xlinkArcrole", "xlinkHref", "xlinkRole", "xlinkShow",
   "xlinkTitle", "xlinkType", "xmlBase", "xmlns", "xmlnsXlink", "xmlLang", "xmlSpace", "y", "y1",
   "y2", "yChannelSelector", "z", "zoomAndPan"]

/-- `head` followed by at least one character, with no line feed behind it. -/
def hasTail (head : List Char) (name : List Char) : Bool :=
  head.isPrefixOf name &&
    match name.drop head.length with
    | [] => false
    | rest => !rest.contains '\n'

/-- Event handlers: `on`, a capital letter, and anything on the same line. -/
def isEventHandler : List Char → Bool
  | 'o' :: 'n' :: c :: rest => c.isUpper && !rest.contains '\n'
  | _ => false

/-- Whether a name belongs to HTML, SVG or React, or to one of the open families: event handlers,
and the names that start with `data-`, `aria-` or `x-`. -/
def isKnownAttribute (name : String) : Bool :=
  reactAttributes.contains name || htmlAttributes.contains name || svgAttributes.contains name
    || isEventHandler name.toList
    || hasTail "data-".toList name.toList
    || hasTail "aria-".toList name.toList
    || hasTail "x-".toList name.toList

end Phrasebook.Markup
