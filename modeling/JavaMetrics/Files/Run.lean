import JavaMetrics.Config.Yaml
import JavaMetrics.Files.Load
import JavaMetrics.Report.Batch

set_option autoImplicit false

namespace JavaMetrics

inductive ConfigFileError where
  | yaml
  | analysis (e : AnalysisError)

def Config.load (fs : FileSystem) (path : String) : Except ConfigFileError Config :=
  match fs.read? path with
  | .error e => .error (.analysis (.config (path ++ ": " ++ e.message)))
  | .ok src =>
    match String.fromUTF8? src.bytes with
    | none => .error (.analysis (.config (path ++ ": stream did not contain valid UTF-8")))
    | some text =>
      match Config.ofYaml? text with
      | none => .error .yaml
      | some config =>
        match config.validate with
        | .ok () => .ok config
        | .error e => .error (.analysis e)

def Batch.runPath (config : Config) (fs : FileSystem) (root : String) (revision : Revision) :
    Except AnalysisError Report :=
  Batch.run config ((Loader.ofConfig root config).load fs) revision

end JavaMetrics
