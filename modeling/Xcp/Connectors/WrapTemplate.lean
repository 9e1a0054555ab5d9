import Xcp.Library.Skeleton

/-! The text of a generated server: a heading, constants, and code that is the
same in every one. -/

namespace Xcp.Connectors
open Python.Written

/-- What is put into the text. -/
structure Fields where
  title : String
  baseUrl : String
  authScheme : String
  authLocation : String
  authName : String
  secretRef : String
  credentialSource : String
  version : String
  docsUrl : String
  nOps : Nat
  module : String
  /-- What `json.dumps` makes of the tools. -/
  toolsLiteral : String

namespace Fields

def headingLines (fields : Fields) : List String :=
  let { title, baseUrl, authScheme, secretRef, credentialSource, docsUrl, nOps, module, .. } := fields
  ["",
   title ++ " — MCP server generated from an OpenAPI specification.",
   "",
   "Generated by connectors.wrap. Read it before you deploy it: a generated wrapper",
   "you cannot inspect is a supply-chain problem wearing a convenience costume.",
   "",
   "  upstream : " ++ baseUrl,
   "  auth     : " ++ authScheme ++ "  (credential: " ++ credentialSource ++ ")",
   "  tools    : " ++ toString nOps,
   "  docs     : " ++ docsUrl,
   "",
   "Credential handling is " ++ credentialSource ++ ":",
   "  operator  resolved at runtime from " ++ secretRef,
   "  session   supplied per request by the caller in XCP-Upstream-Credential,",
   "            used once, never stored. Multi-tenant safe: you run the code, the",
   "            caller owns the key and the bill.",
   "Either way nothing secret is written to this file or to the catalog.",
   "",
   "Run:",
   "    pip install fastapi \"uvicorn[standard]\" httpx",
   "    uvicorn " ++ module ++ ":app --port 9100",
   "",
   "Then register it with your XCP gateway; it becomes ROUTABLE at *your* URL, not",
   "the vendor's."]

def heading (fields : Fields) : String := unlines fields.headingLines

def importLines : List String :=
  ["",
   "",
   "from __future__ import annotations",
   "",
   "import os",
   "from typing import Any",
   "",
   "import httpx",
   "from fastapi import FastAPI, Request",
   "from fastapi.responses import JSONResponse",
   ""]

def setupLines : List String :=
  ["",
   "REQUIRE_VERIFIED = os.getenv(\"REQUIRE_VERIFIED\", \"1\") == \"1\"",
   "",
   "# The caller's own upstream credential, in SESSION mode. Accepted only on a",
   "# request the gateway has already verified, and never stored, logged or echoed.",
   "H_UPSTREAM_CREDENTIAL = \"xcp-upstream-credential\"",
   "",
   "# SEALED mode: this wrapper's keypair. The public half is published at",
   "# /xcp/credential-key so callers can encrypt to it; the private half never",
   "# leaves this process, which is what removes the gateway from the trust set.",
   "# Set XCP_SEAL_PRIVATE to keep the key stable across restarts.",
   "_SEAL_PRIV = os.getenv(\"XCP_SEAL_PRIVATE\", \"\")",
   "_SEAL_PUB = None",
   "if CREDENTIAL_SOURCE == \"sealed\":",
   "    import sys as _sys, pathlib as _pl",
   "    _sys.path.insert(0, str(_pl.Path(__file__).resolve().parents[1]))",
   "    from vault.sealed import (generate_recipient_key, unseal,",
   "                              seal_public_from_private, RecipientKey, SealError)",
   "    if _SEAL_PRIV:",
   "        _SEAL_PUB = seal_public_from_private(_SEAL_PRIV)",
   "    elif os.getenv(\"XCP_SEAL_EPHEMERAL\") == \"1\":",
   "        # Explicitly opted in: fine for local testing, fatal in production.",
   "        _SEAL_PRIV, _SEAL_PUB = generate_recipient_key()",
   "        print(\"[wrapper] WARNING: ephemeral sealing key. Every credential \"",
   "              \"sealed to this wrapper stops opening when it restarts.\", flush=True)",
   "    else:",
   "        # Fail closed. Silently generating a new key would break every caller's",
   "        # sealed credential on restart, with no error anyone can see — the worst",
   "        # possible failure mode for a hosted wrapper.",
   "        raise RuntimeError(",
   "            \"sealed mode needs a persistent key: set XCP_SEAL_PRIVATE to a \"",
   "            \"stored X25519 private key, or XCP_SEAL_EPHEMERAL=1 to accept that \"",
   "            \"restarting invalidates every credential already sealed to this \"",
   "            \"wrapper. Generate one with: python -c \"",
   "            \"'from vault.sealed import generate_recipient_key as g; print(g()[0])'\")",
   "",
   "    # Accept credentials sealed to a PREVIOUS key during rotation, so rolling a",
   "    # key does not break requests already in flight.",
   "    _SEAL_PREV = [k for k in os.getenv(\"XCP_SEAL_PREVIOUS\", \"\").split(\",\") if k]",
   ""]

def handlerLines : List String :=
  ["",
   "",
   "",
   "class CredentialError(Exception):",
   "    \"\"\"Raised instead of quietly falling back to somebody else's key.\"\"\"",
   "",
   "",
   "def _operator_credential() -> str:",
   "    try:",
   "        import sys, pathlib",
   "        sys.path.insert(0, str(pathlib.Path(__file__).resolve().parents[1]))",
   "        from vault import Vault, SecretRef",
   "        return Vault().resolve(SecretRef.parse(SECRET_REF)).reveal()",
   "    except Exception:",
   "        return os.getenv(\"UPSTREAM_CREDENTIAL\", \"\")",
   "",
   "",
   "def _credential(request: Request, verified: bool, context: str = \"\") -> str:",
   "    \"\"\"",
   "    Resolve the upstream credential for THIS request.",
   "",
   "    In SESSION mode the credential belongs to the caller: it arrives per request,",
   "    is used once, and is never written anywhere. Two refusals matter more than",
   "    the happy path:",
   "",
   "      · a session credential is only accepted on a gateway-verified request,",
   "        otherwise anyone could post one directly and bypass the trust layer",
   "      · if the caller supplies none, the wrapper FAILS rather than falling back",
   "        to the operator's key — silently spending the host's money and taking on",
   "        the host's liability is the exact failure this mode exists to prevent",
   "    \"\"\"",
   "    if CREDENTIAL_SOURCE == \"none\":",
   "        return \"\"",
   "    if CREDENTIAL_SOURCE == \"session\":",
   "        if not verified:",
   "            raise CredentialError(",
   "                \"session credentials are only accepted on a gateway-verified \"",
   "                \"request; route through an XCP gateway\")",
   "        cred = request.headers.get(H_UPSTREAM_CREDENTIAL, \"\")",
   "        if not cred:",
   "            raise CredentialError(",
   "                \"this wrapper is multi-tenant: supply your own upstream \"",
   "                \"credential in XCP-Upstream-Credential. It is never stored.\")",
   "        return cred",
   "    if CREDENTIAL_SOURCE == \"sealed\":",
   "        if not verified:",
   "            raise CredentialError(",
   "                \"sealed credentials are only accepted on a gateway-verified \"",
   "                \"request; route through an XCP gateway\")",
   "        blob = request.headers.get(H_UPSTREAM_CREDENTIAL, \"\")",
   "        if not blob:",
   "            raise CredentialError(",
   "                \"this wrapper is multi-tenant: seal your upstream credential to \"",
   "                \"the key at /xcp/credential-key and send it in \"",
   "                \"XCP-Upstream-Credential. The gateway cannot read it.\")",
   "        try:",
   "            return unseal(blob, _SEAL_PRIV, _SEAL_PUB, context=context)",
   "        except SealError:",
   "            pass",
   "        for _old in _SEAL_PREV:                      # key rotation grace",
   "            try:",
   "                return unseal(blob, _old, seal_public_from_private(_old),",
   "                              context=context)",
   "            except SealError:",
   "                continue",
   "        raise CredentialError(",
   "            \"could not open the sealed credential — it may be sealed to a key \"",
   "            \"this wrapper has rotated away from; re-fetch /xcp/credential-key\")",
   "    if CREDENTIAL_SOURCE == \"operator\":",
   "        return _operator_credential()",
   "    # Fail closed. An unrecognised mode must never default to somebody's key.",
   "    raise CredentialError(f\"unknown credential source \x7bCREDENTIAL_SOURCE!r\x7d\")",
   "",
   "",
   "def _auth_headers(cred: str) -> dict:",
   "    if not cred or AUTH_SCHEME == \"none\":",
   "        return \x7b\x7d",
   "    if AUTH_SCHEME == \"bearer\":",
   "        return \x7b\"Authorization\": f\"Bearer \x7bcred\x7d\"\x7d",
   "    if AUTH_SCHEME == \"basic\":",
   "        import base64",
   "        return \x7b\"Authorization\": \"Basic \" + base64.b64encode(",
   "            f\"\x7bcred\x7d:\".encode()).decode()\x7d",
   "    if AUTH_SCHEME == \"apiKey\" and AUTH_LOCATION == \"header\" and AUTH_NAME:",
   "        return \x7bAUTH_NAME: cred\x7d",
   "    return \x7b\x7d",
   "",
   "",
   "def _identity(request: Request) -> dict[str, str]:",
   "    hdr = request.headers.get(\"xcp-agent-identity\", \"\")",
   "    by = request.headers.get(\"xcp-verified-by\", \"\")",
   "    parts = hdr.split(\";\")",
   "    if len(parts) == 3 and by:",
   "        return \x7b\"agentId\": parts[0], \"verifiedBy\": by\x7d",
   "    return \x7b\x7d",
   "",
   "",
   "@app.post(\"/mcp\")",
   "async def mcp(request: Request) -> JSONResponse:",
   "    try:",
   "        msg = await request.json()",
   "    except Exception:",
   "        return JSONResponse(\x7b\"jsonrpc\": \"2.0\", \"id\": None,",
   "                             \"error\": \x7b\"code\": -32700, \"message\": \"parse error\"\x7d\x7d)",
   "    method = msg.get(\"method\") or request.headers.get(\"mcp-method\", \"\")",
   "    mid = msg.get(\"id\")",
   "",
   "    if method == \"tools/list\":",
   "        return JSONResponse(\x7b\"jsonrpc\": \"2.0\", \"id\": mid, \"result\": \x7b",
   "            \"tools\": [\x7b\"name\": n, \"description\": t[\"summary\"],",
   "                        \"inputSchema\": t[\"schema\"]\x7d for n, t in TOOLS.items()]\x7d\x7d)",
   "",
   "    if method == \"tools/call\":",
   "        ident = _identity(request)",
   "        if REQUIRE_VERIFIED and not ident:",
   "            return JSONResponse(\x7b\"jsonrpc\": \"2.0\", \"id\": mid, \"error\": \x7b",
   "                \"code\": -32001,",
   "                \"message\": \"XCP: unverified call. Route through an XCP gateway.\"\x7d\x7d,",
   "                status_code=401)",
   "        if CREDENTIAL_SOURCE in (\"session\", \"sealed\") and not ident:",
   "            return JSONResponse(\x7b\"jsonrpc\": \"2.0\", \"id\": mid, \"error\": \x7b",
   "                \"code\": -32001,",
   "                \"message\": (\"XCP: caller-supplied credentials require a verified \"",
   "                            \"session. Accepting one from an unverified caller \"",
   "                            \"would be credential injection.\")\x7d\x7d, status_code=401)",
   "        params = msg.get(\"params\") or \x7b\x7d",
   "        name = params.get(\"name\", \"\") or request.headers.get(\"mcp-name\", \"\")",
   "        spec = TOOLS.get(name)",
   "        if spec is None:",
   "            return JSONResponse(\x7b\"jsonrpc\": \"2.0\", \"id\": mid, \"error\": \x7b",
   "                \"code\": -32602, \"message\": f\"unknown tool \x7bname!r\x7d\"\x7d\x7d)",
   "        try:",
   "            cred = _credential(request, bool(ident),",
   "                               context=f\"tools/call:\x7bname\x7d\")",
   "        except CredentialError as e:",
   "            return JSONResponse(\x7b\"jsonrpc\": \"2.0\", \"id\": mid, \"error\": \x7b",
   "                \"code\": -32002, \"message\": str(e)\x7d\x7d, status_code=401)",
   "        args = dict(params.get(\"arguments\") or \x7b\x7d)",
   "        body = args.pop(\"body\", None)",
   "        path = spec[\"path\"]",
   "        query: dict[str, Any] = \x7b\x7d",
   "        for k, v in args.items():",
   "            token = \"\x7b\" + k + \"\x7d\"",
   "            if token in path:",
   "                path = path.replace(token, str(v))",
   "            else:",
   "                query[k] = v",
   "        try:",
   "            async with httpx.AsyncClient(timeout=30) as hc:",
   "                r = await hc.request(spec[\"method\"].upper(), BASE_URL + path,",
   "                                     params=query or None, json=body,",
   "                                     headers=_auth_headers(cred))",
   "            payload = r.json() if r.headers.get(\"content-type\", \"\").startswith(",
   "                \"application/json\") else \x7b\"text\": r.text[:20000]\x7d",
   "        except Exception as e:",
   "            return JSONResponse(\x7b\"jsonrpc\": \"2.0\", \"id\": mid, \"error\": \x7b",
   "                \"code\": -32603, \"message\": f\"upstream error: \x7btype(e).__name__\x7d\"\x7d\x7d)",
   "        return JSONResponse(\x7b\"jsonrpc\": \"2.0\", \"id\": mid, \"result\": \x7b",
   "            \"content\": [\x7b\"type\": \"text\", \"text\": _dump(payload)\x7d],",
   "            \"_xcp\": \x7b\"servedFor\": ident.get(\"agentId\"),",
   "                     \"upstream\": BASE_URL, \"status\": r.status_code\x7d\x7d\x7d)",
   "",
   "    return JSONResponse(\x7b\"jsonrpc\": \"2.0\", \"id\": mid, \"error\": \x7b",
   "        \"code\": -32601, \"message\": f\"method not found: \x7bmethod\x7d\"\x7d\x7d)",
   "",
   "",
   "def _dump(obj: Any) -> str:",
   "    import json as _json",
   "    try:",
   "        return _json.dumps(obj)[:40000]",
   "    except Exception:",
   "        return str(obj)[:40000]",
   "",
   "",
   "@app.get(\"/xcp/credential-key\")",
   "async def credential_key() -> JSONResponse:",
   "    \"\"\"",
   "    Publish this wrapper's sealing key. Callers fetch it, seal their upstream",
   "    credential to it, and send the blob through the gateway — which cannot open it.",
   "    \"\"\"",
   "    if CREDENTIAL_SOURCE != \"sealed\":",
   "        return JSONResponse(\x7b\"error\": f\"this wrapper uses \x7bCREDENTIAL_SOURCE\x7d credentials\"\x7d,",
   "                            status_code=404)",
   "    return JSONResponse(_SEAL_PUB.to_dict())",
   "",
   "",
   "@app.get(\"/health\")",
   "async def health() -> dict:",
   "    # deliberately reports the MODE, never the credential",
   "    return \x7b\"ok\": True, \"upstream\": BASE_URL, \"tools\": len(TOOLS),",
   "            \"credentialSource\": CREDENTIAL_SOURCE,",
   "            \"requiresVerified\": REQUIRE_VERIFIED\x7d"]

/-- The code before each of the strings. -/
def stringCodes : List String :=
  [unlines importLines ++ "BASE_URL = ", "\nAUTH_SCHEME = ", "\nAUTH_LOCATION = ", "\nAUTH_NAME = ", "\nSECRET_REF = ",
   "\nCREDENTIAL_SOURCE = ", unlines setupLines ++ "app = FastAPI(title=", ", version="]

def strings (fields : Fields) : List String :=
  [fields.baseUrl, fields.authScheme, fields.authLocation, fields.authName, fields.secretRef,
   fields.credentialSource, fields.title ++ " (MCP)", fields.version]

def tableCode : String := ")\n\nTOOLS: dict[str, dict[str, Any]] = "

/-- `TEMPLATE.format(...)`. -/
def text (fields : Fields) : String :=
  "\"\"\"" ++ fields.heading ++ "\"\"\"" ++ withStrings (stringCodes.zip fields.strings) ++ tableCode ++
    fields.toolsLiteral ++ unlines handlerLines

end Fields

end Xcp.Connectors
