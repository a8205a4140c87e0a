/-
Three sample tools, one in each layout of documentation.
-/
import ToolSchema.Signature

namespace ToolSchema.Catalog

def weather : Signature where
  name := "get_weather"
  docstring := some ("Get the current weather in a given location.\n\nArgs:\n" ++
    "    location: The city and state, e.g. San Francisco, CA\n    unit: Temperature unit.")
  parameters := [
    .required "location" (some .string),
    (Parameter.required "unit" (some (.optional (.literal [.string "celsius", .string "fahrenheit"])))).withSomeDefault]

def search : Signature where
  name := "search"
  docstring := some ("Search the document index.\n\n:param query: Free-text query.\n" ++
    ":param limit: Maximum number of hits.\n:param tags: Only return documents carrying all of these tags.")
  parameters := [
    .required "query" (some .string),
    (Parameter.required "limit" (some .integer)).withDefault (.number (.int 10)),
    (Parameter.required "tags" (some (.optional (.array (some .string))))).withSomeDefault]

def schedule : Signature where
  name := "schedule"
  docstring := some ("Schedule a meeting.\n\nParameters\n----------\ntitle : str\n    Meeting title.\n" ++
    "attendees : list of str\n    Email addresses of the attendees.\nduration : int\n    Length in minutes.")
  parameters := [
    .required "title" (some .string),
    .required "attendees" (some (.array (some .string))),
    (Parameter.required "duration" (some .integer)).withDefault (.number (.int 30))]

def all : List Signature := [weather, search, schedule]

end ToolSchema.Catalog
