import AuditTrail.Web.Message

/-!
# Documentation pages

The three HTML pages that document the interface, each a fixed text around the service's title
and the addresses it refers to.
-/

namespace AuditTrail

/-- A documentation page. -/
inductive DocPage where
  | explorer
  | reader
  | signInReturn
  deriving DecidableEq, Repr

namespace DocPage

def serviceTitle : String := "Parking Logs"

def descriptionPath : String := "/openapi.json"

def path : DocPage → String
  | .explorer => "/docs"
  | .reader => "/redoc"
  | .signInReturn => "/docs/oauth2-redirect"

def all : List DocPage := [.explorer, .reader, .signInReturn]

/-- The lines of the explorer for a service titled `title` whose description is at `schema`,
sending a sign-in back to `back`. -/
def explorerLines (title schema back : String) : List String :=
  [
    "",
    "    <!DOCTYPE html>",
    "    <html>",
    "    <head>",
    "    <meta name=\"viewport\" content=\"width=device-width, initial-scale=1.0\">",
    "    <link type=\"text/css\" rel=\"stylesheet\" href=\"https://cdn.jsdelivr.net/npm/swagger-ui-dist@5/swagger-ui.css\">",
    "    <link rel=\"shortcut icon\" href=\"https://fastapi.tiangolo.com/img/favicon.png\">",
    "    <title>" ++ title ++ " - Swagger UI</title>",
    "    </head>",
    "    <body>",
    "    <div id=\"swagger-ui\">",
    "    </div>",
    "    <script src=\"https://cdn.jsdelivr.net/npm/swagger-ui-dist@5/swagger-ui-bundle.js\"></script>",
    "    <!-- \x60SwaggerUIBundle\x60 is now available on the page -->",
    "    <script>",
    "    const ui = SwaggerUIBundle(\x7b",
    "        url: '" ++ schema ++ "',",
    "    \"dom_id\": \"#swagger-ui\",",
    "\"layout\": \"BaseLayout\",",
    "\"deepLinking\": true,",
    "\"showExtensions\": true,",
    "\"showCommonExtensions\": true,",
    "oauth2RedirectUrl: window.location.origin + '" ++ back ++ "',",
    "    presets: [",
    "        SwaggerUIBundle.presets.apis,",
    "        SwaggerUIBundle.SwaggerUIStandalonePreset",
    "        ],",
    "    \x7d)",
    "    </script>",
    "    </body>",
    "    </html>",
    "    "]

/-- The lines of the reading view for a service titled `title` whose description is at
`schema`. -/
def readerLines (title schema : String) : List String :=
  [
    "",
    "    <!DOCTYPE html>",
    "    <html>",
    "    <head>",
    "    <title>" ++ title ++ " - ReDoc</title>",
    "    <!-- needed for adaptive design -->",
    "    <meta charset=\"utf-8\"/>",
    "    <meta name=\"viewport\" content=\"width=device-width, initial-scale=1\">",
    "    ",
    "    <link href=\"https://fonts.googleapis.com/css?family=Montserrat:300,400,700|Roboto:300,400,700\" rel=\"stylesheet\">",
    "    ",
    "    <link rel=\"shortcut icon\" href=\"https://fastapi.tiangolo.com/img/favicon.png\">",
    "    <!--",
    "    ReDoc doesn't change outer page styles",
    "    -->",
    "    <style>",
    "      body \x7b",
    "        margin: 0;",
    "        padding: 0;",
    "      \x7d",
    "    </style>",
    "    </head>",
    "    <body>",
    "    <noscript>",
    "        ReDoc requires Javascript to function. Please enable it to browse the documentation.",
    "    </noscript>",
    "    <redoc spec-url=\"" ++ schema ++ "\"></redoc>",
    "    <script src=\"https://cdn.jsdelivr.net/npm/redoc@2/bundles/redoc.standalone.js\"> </script>",
    "    </body>",
    "    </html>",
    "    "]

def signInReturnLines : List String :=
  [
    "",
    "    <!doctype html>",
    "    <html lang=\"en-US\">",
    "    <head>",
    "        <title>Swagger UI: OAuth2 Redirect</title>",
    "    </head>",
    "    <body>",
    "    <script>",
    "        'use strict';",
    "        function run () \x7b",
    "            var oauth2 = window.opener.swaggerUIRedirectOauth2;",
    "            var sentState = oauth2.state;",
    "            var redirectUrl = oauth2.redirectUrl;",
    "            var isValid, qp, arr;",
    "",
    "            if (/code|token|error/.test(window.location.hash)) \x7b",
    "                qp = window.location.hash.substring(1).replace('?', '&');",
    "            \x7d else \x7b",
    "                qp = location.search.substring(1);",
    "            \x7d",
    "",
    "            arr = qp.split(\"&\");",
    "            arr.forEach(function (v,i,_arr) \x7b _arr[i] = '\"' + v.replace('=', '\":\"') + '\"';\x7d);",
    "            qp = qp ? JSON.parse('\x7b' + arr.join() + '\x7d',",
    "                    function (key, value) \x7b",
    "                        return key === \"\" ? value : decodeURIComponent(value);",
    "                    \x7d",
    "            ) : \x7b\x7d;",
    "",
    "            isValid = qp.state === sentState;",
    "",
    "            if ((",
    "              oauth2.auth.schema.get(\"flow\") === \"accessCode\" ||",
    "              oauth2.auth.schema.get(\"flow\") === \"authorizationCode\" ||",
    "              oauth2.auth.schema.get(\"flow\") === \"authorization_code\"",
    "            ) && !oauth2.auth.code) \x7b",
    "                if (!isValid) \x7b",
    "                    oauth2.errCb(\x7b",
    "                        authId: oauth2.auth.name,",
    "                        source: \"auth\",",
    "                        level: \"warning\",",
    "                        message: \"Authorization may be unsafe, passed state was changed in server. The passed state wasn't returned from auth server.\"",
    "                    \x7d);",
    "                \x7d",
    "",
    "                if (qp.code) \x7b",
    "                    delete oauth2.state;",
    "                    oauth2.auth.code = qp.code;",
    "                    oauth2.callback(\x7bauth: oauth2.auth, redirectUrl: redirectUrl\x7d);",
    "                \x7d else \x7b",
    "                    let oauthErrorMsg;",
    "                    if (qp.error) \x7b",
    "                        oauthErrorMsg = \"[\"+qp.error+\"]: \" +",
    "                            (qp.error_description ? qp.error_description+ \". \" : \"no accessCode received from the server. \") +",
    "                            (qp.error_uri ? \"More info: \"+qp.error_uri : \"\");",
    "                    \x7d",
    "",
    "                    oauth2.errCb(\x7b",
    "                        authId: oauth2.auth.name,",
    "                        source: \"auth\",",
    "                        level: \"error\",",
    "                        message: oauthErrorMsg || \"[Authorization failed]: no accessCode received from the server.\"",
    "                    \x7d);",
    "                \x7d",
    "            \x7d else \x7b",
    "                oauth2.callback(\x7bauth: oauth2.auth, token: qp, isValid: isValid, redirectUrl: redirectUrl\x7d);",
    "            \x7d",
    "            window.close();",
    "        \x7d",
    "",
    "        if (document.readyState !== 'loading') \x7b",
    "            run();",
    "        \x7d else \x7b",
    "            document.addEventListener('DOMContentLoaded', function () \x7b",
    "                run();",
    "            \x7d);",
    "        \x7d",
    "    </script>",
    "    </body>",
    "    </html>",
    "        "]

def html : DocPage → String
  | .explorer => "\n".intercalate (explorerLines serviceTitle descriptionPath signInReturn.path)
  | .reader => "\n".intercalate (readerLines serviceTitle descriptionPath)
  | .signInReturn => "\n".intercalate signInReturnLines

end DocPage

def Response.docPage (p : DocPage) : Response :=
  { status := 200, contentType := some "text/html; charset=utf-8", body := .text p.html }

end AuditTrail
