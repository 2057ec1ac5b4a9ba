/-!
# Home directories

A path may begin with a tilde. A tilde alone stands for the home directory of the user, and a tilde
with a name behind it for the home directory of the account of that name. A name without an account
leaves the path as it is.

## Main definitions

- `Homes`: the home directories that are known.
- `Homes.ofAccounts`: those of an account list.
- `Homes.expand?`: a path with its tilde replaced.
-/

namespace ChipEight

namespace CommandLine

/-- The home directories that are known: that of the user, and those of the accounts. -/
structure Homes where
  own : String
  accounts : List (String × String) := []

/-- The accounts of a list with one account a line; between colons, the name comes first and the
home directory sixth. -/
def Homes.ofAccounts (own : String) (lines : List String) : Homes where
  own := own
  accounts := lines.filterMap fun line =>
    match line.splitToList (· = ':') with
    | name :: _ :: _ :: _ :: _ :: home :: _ => some (name, home)
    | _ => none

/-- A home directory and the rest of a path behind it. -/
def underHome (home : String) (rest : List Char) : String :=
  let base := (home.toList.reverse.dropWhile (· = '/')).reverse
  if base ++ rest = [] then "/" else String.ofList (base ++ rest)

/-- A path with a leading tilde replaced by the home directory it stands for. There is no path if
the name behind the tilde holds a zero character, for which no account can be looked up. -/
def Homes.expand? (h : Homes) (path : String) : Option String :=
  match path.toList with
  | '~' :: cs =>
    let name := String.ofList (cs.takeWhile (· != '/'))
    let rest := cs.dropWhile (· != '/')
    if name = "" then some (underHome h.own rest)
    else if name.contains (Char.ofNat 0) then none
    else
      match h.accounts.lookup name with
      | some home => some (underHome home rest)
      | none => some path
  | _ => some path

end CommandLine

end ChipEight
