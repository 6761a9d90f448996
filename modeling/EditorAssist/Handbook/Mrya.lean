import EditorAssist.Handbook.Basic

/-! # The handbook of Mrya

The fixed words and the documented names of the Mrya language, in the order in which they are
offered. -/

namespace EditorAssist

/-- The fixed words of Mrya.  No package comes with the language. -/
def Vocabulary.mrya : Vocabulary where
  keywords := [
    "let", "const", "func", "define", "return", "class", "inherit", "this", "as", "if", "else",
    "while", "for", "break", "continue", "try", "catch", "end", "raise", "true", "false", "nil"]
  nativeModules := ["time", "fs", "string", "math", "window", "json"]
  packageModules := []
  packageNamespace := "pkg"
  literals := ["true", "false", "nil"]

/-- What Mrya documents: the core names, then conversions, files, lists, maps, numbers, the members
of the native modules, and the literals. -/
def Table.mryaEntries : List Entry := [
  ⟨"output", "Prints a value to the console.\n\nExample: `output(\"Hello\")`"⟩,
  ⟨"import", "Imports a module or file.\n\nExample: `let t = import(\"time\")`"⟩,
  ⟨"request", "Prompts the user for input."⟩,
  ⟨"raise", "Raises a custom exception.\n\nExample: `raise(\"Something went wrong\")`"⟩,
  ⟨"assert", "Asserts that a value equals expected; raises error otherwise."⟩,
  ⟨"to_int", "Converts a value to an integer."⟩,
  ⟨"to_float", "Converts a value to a float."⟩,
  ⟨"to_bool", "Converts a value to a boolean."⟩,
  ⟨"fetch", "Reads the content of a file (creates if missing)."⟩,
  ⟨"store", "Writes content to a file."⟩,
  ⟨"append_to", "Appends content to the end of a file."⟩,
  ⟨"append", "Adds an item to the end of a list."⟩,
  ⟨"length", "Returns the number of items in a list or characters in a string."⟩,
  ⟨"list_slice", "Returns a slice of a list."⟩,
  ⟨"get", "Retrieves an element from a list by index."⟩,
  ⟨"set", "Sets a value at an index in a list."⟩,
  ⟨"map_has", "Checks if a map contains a key."⟩,
  ⟨"map_keys", "Returns all keys in a map."⟩,
  ⟨"map_values", "Returns all values in a map."⟩,
  ⟨"map_delete", "Removes a key-value pair from a map."⟩,
  ⟨"map_get", "Gets a value from a map by key."⟩,
  ⟨"map_set", "Sets a value in a map by key."⟩,
  ⟨"abs", "Returns the absolute value of a number."⟩,
  ⟨"round", "Rounds a number to the nearest integer."⟩,
  ⟨"up", "Rounds up to the nearest integer."⟩,
  ⟨"down", "Rounds down to the nearest integer."⟩,
  ⟨"root", "Calculates the square root."⟩,
  ⟨"random", "Returns a random float between 0.0 and 1.0."⟩,
  ⟨"randint", "Returns a random integer between min and max (inclusive)."⟩,
  ⟨"time.sleep", "Pauses execution for the specified seconds."⟩,
  ⟨"time.time", "Returns the current Unix timestamp."⟩,
  ⟨"time.datetime", "Returns the current date and time as a string."⟩,
  ⟨"fs.exists", "Checks if a file or directory exists."⟩,
  ⟨"fs.is_file", "Returns true if path is a file."⟩,
  ⟨"fs.is_dir", "Returns true if path is a directory."⟩,
  ⟨"fs.list_dir", "Lists directory contents."⟩,
  ⟨"fs.make_dir", "Creates a new directory."⟩,
  ⟨"fs.remove_file", "Deletes a file."⟩,
  ⟨"fs.remove_dir", "Deletes a directory and its contents."⟩,
  ⟨"fs.get_size", "Returns the size of a file in bytes."⟩,
  ⟨"str_utils.upper", "Converts string to uppercase."⟩,
  ⟨"str_utils.lower", "Converts string to lowercase."⟩,
  ⟨"str_utils.trim", "Removes whitespace from both ends of the string."⟩,
  ⟨"str_utils.replace", "Replaces all occurrences of a substring."⟩,
  ⟨"str_utils.split", "Splits a string into a list by separator."⟩,
  ⟨"str_utils.contains", "Checks if a string contains a substring."⟩,
  ⟨"str_utils.startsWith", "Checks if a string starts with a prefix."⟩,
  ⟨"str_utils.endsWith", "Checks if a string ends with a suffix."⟩,
  ⟨"str_utils.slice", "Returns a substring between indices."⟩,
  ⟨"join", "Joins a list of strings using a separator."⟩,
  ⟨"window.init", "Initializes the window system."⟩,
  ⟨"window.create_display", "Creates a display window with width and height."⟩,
  ⟨"window.update", "Updates the window display and limits FPS."⟩,
  ⟨"window.get_events", "Returns the list of current event objects."⟩,
  ⟨"window.get_event_type", "Returns the type of an event (e.g., QUIT, KEYDOWN)."⟩,
  ⟨"window.get_event_key", "Returns the key code for a keyboard event."⟩,
  ⟨"window.get_const", "Gets a constant by name (e.g., 'K_w', 'QUIT')."⟩,
  ⟨"window.fill", "Fills the display surface with a solid color."⟩,
  ⟨"window.rect", "Draws a rectangle at (x, y) with size (sx, sy) and color (r, g, b)."⟩,
  ⟨"window.circle", "Draws a circle centered at (x, y) with color (r, g, b)."⟩,
  ⟨"window.text", "Renders text at (x, y) with font, size, and color."⟩,
  ⟨"window.update_key_states", "Updates the current key state cache."⟩,
  ⟨"window.get_key_state", "Returns true if the specified key is pressed."⟩,
  ⟨"true", "Boolean literal for truth."⟩,
  ⟨"false", "Boolean literal for falsehood."⟩,
  ⟨"nil", "Represents an absence of value."⟩]

/-- The documentation table of Mrya. -/
def Table.mrya : Table := Table.ofEntries Table.mryaEntries

theorem Table.dottedEntries_mrya : Handbook.dottedEntries Table.mrya = [] := by
  decide +kernel

/-- The handbook of Mrya. -/
def Handbook.mrya : Handbook :=
  ⟨.mrya, .mrya, Handbook.dots_le_one_of_dottedEntries_eq_nil Table.dottedEntries_mrya⟩

end EditorAssist
