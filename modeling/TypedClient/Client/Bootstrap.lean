import TypedClient.Client.Artifact
import TypedClient.Script.File

/-!
Contract: the file that sets a client up.

Owns: the address of the service, the token, and the instance that sends requests.

Does not own: when the file is written.
-/

namespace TypedClient.Client

open TypedClient.Script

/-- The address of the service: of the environment, else the default one. -/
def addressItem (settings : BootstrapSettings) : String :=
  "export const baseUrl =\n  import.meta.env." ++ settings.addressVariable ++ " || " ++
    literal settings.defaultAddress ++ ";\n"

/-- The token: of the platform, else one that was pasted in. -/
def tokenItem (settings : BootstrapSettings) : String :=
  let scheme := String.ofList (settings.tokenScheme.toList.filter (· ≠ '\x60'))
  "// Platform token inside Telegram, otherwise a fallback for local development\n" ++
    "const rawToken = isTMA()\n  ? tgToken\n  : // Paste a development token here\n" ++
    "    \"\";\n\n" ++
    "export const token = rawToken ? \x60" ++ scheme ++ " $\x7brawToken\x7d\x60 : \"\";\n"

/-- The instance that sends requests. -/
def instanceItem : String :=
  "export const axiosInstance: AxiosInstance = axios.create(\x7b\n" ++
    "  baseURL: baseUrl,\n" ++
    "  headers: \x7b\n" ++
    "    \"Content-Type\": \"application/json\",\n" ++
    "    Accept: \"application/json\",\n" ++
    "    ...(token ? \x7b Authorization: token \x7d : \x7b\x7d),\n" ++
    "  \x7d,\n" ++
    "\x7d);\n"

/-- The file that sets a client up. -/
def bootstrapFile (settings : BootstrapSettings) : File where
  header := [rule, "API client setup",
    "This file is NOT overwritten when the API code is regenerated", rule]
  imports := [
    ⟨some "axios", ["AxiosInstance"], "axios", false⟩,
    ⟨none, ["isTMA", "tgToken"], settings.tokenModule, false⟩]
  items := [addressItem settings, tokenItem settings, instanceItem]

end TypedClient.Client
