import MiniApp.Template

set_option autoImplicit false

namespace MiniApp.Asset

def shell : Template := ⟨[
  .text (fileText [
    "<!DOCTYPE html>"] ++ "<html lang=\""),
  .value "lang",
  .text "\" data-theme=\"",
  .value "theme",
  .text (fileText [
    "\">",
    "<head>",
    "  <meta charset=\"utf-8\">",
    "  <meta name=\"viewport\" content=\"width=device-width, initial-scale=1, viewport-fit=cover\">",
    "  <meta name=\"generator\" content=\"miniforge\">"] ++ "  <title>"),
  .value "title",
  .text (fileText [
    "</title>",
    "  <style>"]),
  .indent (some (.name "stylesheet")) (some (.literal (.integer 4))),
  .text (fileText [
    "",
    "  </style>",
    "</head>",
    "<body>"]),
  .indent (some (.name "main")) (some (.literal (.integer 2))),
  .text (fileText [
    "",
    "  <div class=\"mf-toast-host\" id=\"mf-toasts\" aria-live=\"polite\"></div>",
    "  <script>"]),
  .indent (some (.name "script")) (some (.literal (.integer 4))),
  .text (fileText [
    "",
    "  </script>",
    "</body>",
    "</html>"])]⟩

def placeholder : Template := ⟨[
  .text (fileText [
    "<!DOCTYPE html>"] ++ "<html lang=\""),
  .value "lang",
  .text "\" data-theme=\"",
  .value "theme",
  .text (fileText [
    "\">",
    "<head>",
    "  <meta charset=\"utf-8\">",
    "  <meta name=\"viewport\" content=\"width=device-width, initial-scale=1\">",
    "  <meta name=\"generator\" content=\"miniforge\">"] ++ "  <title>"),
  .value "title",
  .text (fileText [
    "</title>",
    "  <style>"]),
  .indent (some (.name "stylesheet")) (some (.literal (.integer 4))),
  .text (fileText [
    "",
    "  </style>",
    "</head>",
    "<body data-generation-error=\"true\">",
    "  <main id=\"mf-app\">",
    "    <div class=\"mf-empty\">",
    "      <h1 class=\"mf-heading\">This app could not be generated</h1>",
    "      <p class=\"mf-text\">The page data is incomplete or damaged. Open the editor and try again.</p>"] ++ "      <p class=\"mf-text mf-error-reason\">"),
  .value "reason",
  .text (fileText [
    "</p>",
    "    </div>",
    "  </main>",
    "</body>",
    "</html>"])]⟩

end MiniApp.Asset
