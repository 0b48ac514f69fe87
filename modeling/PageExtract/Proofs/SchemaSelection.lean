import Mathlib
import PageExtract.Proofs.Characters
import PageExtract.Schema.Basic

/-! The first schema that applies to a page is taken, whatever comes behind it. Whether a schema
applies depends on its pattern and on the set of its selectors, in no order. -/
namespace PageExtract

namespace Schema
variable {s s' : Schema} {url : String} {page : Html.Document}

end Schema

namespace Extractor

end Extractor
end PageExtract
