import VisualNovel.LanguageModel.Connection
import VisualNovel.Mishap
/-!
Connections by documents: which settings there are, and what is asked of an address.
-/

namespace VisualNovel.Connection

/-- The settings that a connection can be given. -/
def settingNames : List String :=
  ["provider_url", "api_key", "provider_format", "model", "timeout", "max_output_tokens"]

/-- A connection with settings by name. -/
def withSettings (settings : List (String × Json)) : Except Mishap Connection :=
  if settings.any fun (name, _) => !settingNames.contains name then .error .wrongKind
  else
    match Json.lookup? "provider_url" settings with
    | none | some (.str _) => .ok (ofSettings settings)
    | some _ => .error .wrongShape

end VisualNovel.Connection
