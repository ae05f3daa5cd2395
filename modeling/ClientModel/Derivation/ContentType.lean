import ClientModel.Text.Ascii
import ClientModel.Usage

/-! Content types, and the formats that they stand for. -/

namespace ClientModel.Derivation.ContentType

/-- The content type of a payload for which none is declared. -/
def json : String := "application/json"

/-- The content type is one of JSON, plain or for some purpose. -/
def isJson (contentType : String) : Bool :=
  Text.occurs "json" contentType

/-- The usage that a content type implies. -/
def usage (contentType : String) : Usage :=
  if Text.occurs "merge-patch+json" contentType then Usage.jsonMergePatch ||| Usage.json
  else if isJson contentType then Usage.json
  else if Text.starts "multipart/" contentType then Usage.multipartFormData
  else if Text.occurs "xml" contentType then Usage.xml
  else Usage.none

/-- The usage that some content types imply together. -/
def usages (contentTypes : List String) : Usage :=
  contentTypes.foldl (fun all contentType => all ||| usage contentType) Usage.none

/-- The content types, or that of JSON if there are none. -/
def orJson (contentTypes : List String) : List String :=
  if contentTypes.isEmpty then [json] else contentTypes

/-- The content type to use unless another is asked for: that of JSON before the first. -/
def default? (contentTypes : List String) : Option String :=
  (contentTypes.find? (· == json)).or contentTypes.head?

end ClientModel.Derivation.ContentType
