import JavaMetrics.Json.Members
import JavaMetrics.Metrics.Basic

set_option autoImplicit false

namespace JavaMetrics.ClassMetrics

open Json.Members

def toJson (c : ClassMetrics) : Json :=
  .obj [("class_name", .str c.className), ("qualified_name", .str c.qualifiedName),
    ("package", .ofOption .str c.package), ("file_path", .str c.filePath), ("loc", .nat c.loc),
    ("wmc", .nat c.wmc), ("dit", .nat c.dit), ("noc", .nat c.noc), ("cbo", .nat c.cbo),
    ("rfc", .nat c.rfc), ("lcom", .ofFloat c.lcom), ("method_count", .nat c.methodCount),
    ("attribute_count", .nat c.attributeCount), ("dependencies_in", .strs c.dependenciesIn),
    ("dependencies_out", .strs c.dependenciesOut), ("in_degree", .nat c.inDegree),
    ("out_degree", .nat c.outDegree)]

def ofJson? : Json → Option ClassMetrics := Json.toRecord? do
  return ⟨← required "class_name" Json.toText?, ← required "qualified_name" Json.toText?,
    ← optional "package" Json.toText?, ← required "file_path" Json.toText?,
    ← required "loc" Json.toNat?, ← required "wmc" Json.toNat?, ← required "dit" Json.toNat?,
    ← required "noc" Json.toNat?, ← required "cbo" Json.toNat?, ← required "rfc" Json.toNat?,
    ← required "lcom" Json.toFloat?, ← required "method_count" Json.toNat?,
    ← required "attribute_count" Json.toNat?,
    ← orElse "dependencies_in" (Json.toList? Json.toText?) [],
    ← orElse "dependencies_out" (Json.toList? Json.toText?) [],
    ← orElse "in_degree" Json.toNat? 0, ← orElse "out_degree" Json.toNat? 0⟩

end JavaMetrics.ClassMetrics
