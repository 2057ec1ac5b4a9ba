/-!
# The host's keyboard

A host names the keys of its keyboard. Letters and digits are named by themselves, in lower case,
and all other keys by words.

## Main definitions

- `HostKey`: the keys, as far as they are told apart.
- `HostKey.ofName?`: the key of a name.
- `NoSuchHostKey`: the complaint about a name that no key has.
-/

namespace ChipEight

/-- A key of the host's keyboard. -/
inductive HostKey where
  /-- The key of a letter or a digit. -/
  | symbol (c : Char)
  | escape
  | pause
  | other
  deriving DecidableEq, Repr

namespace HostKey

/-- The names of the keys that no letter or digit names, but for the numbered ones. -/
def words : List String :=
  ["AC_BACK", "AMPERSAND", "ASTERISK", "AT", "BACKQUOTE", "BACKSLASH", "BACKSPACE", "BREAK",
    "CAPSLOCK", "CARET", "CLEAR", "COLON", "COMMA", "CURRENCYSUBUNIT", "CURRENCYUNIT", "DELETE",
    "DOLLAR", "DOWN", "END", "EQUALS", "ESCAPE", "EURO", "EXCLAIM", "GREATER", "HASH", "HELP",
    "HOME", "INSERT", "KP_DIVIDE", "KP_ENTER", "KP_EQUALS", "KP_MINUS", "KP_MULTIPLY", "KP_PERIOD",
    "KP_PLUS", "LALT", "LCTRL", "LEFT", "LEFTBRACKET", "LEFTPAREN", "LESS", "LGUI", "LMETA",
    "LSHIFT", "LSUPER", "MENU", "MINUS", "MODE", "NUMLOCK", "NUMLOCKCLEAR", "PAGEDOWN", "PAGEUP",
    "PAUSE", "PERCENT", "PERIOD", "PLUS", "POWER", "PRINT", "PRINTSCREEN", "QUESTION", "QUOTE",
    "QUOTEDBL", "RALT", "RCTRL", "RETURN", "RGUI", "RIGHT", "RIGHTBRACKET", "RIGHTPAREN", "RMETA",
    "RSHIFT", "RSUPER", "SCROLLLOCK", "SCROLLOCK", "SEMICOLON", "SLASH", "SPACE", "SYSREQ", "TAB",
    "UNDERSCORE", "UNKNOWN", "UP"]

/-- The names of the numbered keys: the function keys and the two spellings of the keys of the
number block. -/
def numbered : List String :=
  ((List.range 15).map fun k => "F" ++ toString (k + 1)) ++
    (List.range 10).flatMap fun k => ["KP" ++ toString k, "KP_" ++ toString k]

/-- The key of a name. -/
def ofName? (name : String) : Option HostKey :=
  match name.toList with
  | [c] => if c.isLower || c.isDigit then some (.symbol c) else none
  | _ =>
    if name = "ESCAPE" then some .escape
    else if name = "F5" then some .pause
    else if words.contains name || numbered.contains name then some .other
    else none

end HostKey

/-- The complaint about a name that no key has. -/
structure NoSuchHostKey where
  name : String
  deriving DecidableEq, Repr

/-- The text of the complaint. -/
def NoSuchHostKey.message (e : NoSuchHostKey) : String :=
  "module 'pygame' has no attribute 'K_" ++ e.name ++ "'"

end ChipEight
