import ElectroSync.Database.Types

/-!
# The mail of an alert (`mail/mail.service.ts`, `mail/templates/alert.template.ts`)

The subject and the body arrive localised. The template adds what is around them, and escapes them
in the HTML.
-/

namespace ElectroSync

structure OutboundMail where
  address : String
  subject : String
  text : String
  html : String
  deriving DecidableEq

/-- `MailService`: whether it has a transport, and what a send meets. -/
structure MailService where
  isConfigured : Bool
  send : OutboundMail → Except String Unit

structure AlertMailInput where
  address : String
  title : String
  body : String
  locale : Language
  deriving DecidableEq

structure AlertCopy where
  intro : String
  settings : String
  footer : String
  deriving DecidableEq

/-- `COPY` -/
def alertCopy : Language → AlertCopy
  | .en => {
      intro := "Here is an update on your prepaid meter."
      settings := "You are receiving this because email alerts are on for your account. You can " ++
        "turn them off in the app under Settings → Notifications."
      footer := "ElectroSync · Prepaid meter tracking" }
  | .bn => {
      intro := "আপনার প্রিপেইড মিটারের সর্বশেষ খবর।"
      settings := "আপনার অ্যাকাউন্টে ইমেইল সতর্কতা চালু থাকায় এই বার্তাটি পাঠানো হয়েছে। " ++
        "অ্যাপের সেটিংস → নোটিফিকেশন থেকে এটি বন্ধ করতে পারেন।"
      footer := "ইলেক্ট্রোসিঙ্ক · প্রিপেইড মিটার ট্র্যাকিং" }

/-- `value.replace(/c/g, text)` for a single character. -/
def replaceAll (c : Char) (text value : String) : String :=
  String.ofList (value.toList.flatMap fun d => if d = c then text.toList else [d])

def escapeHtml (value : String) : String :=
  replaceAll '"' "&quot;" (replaceAll '>' "&gt;" (replaceAll '<' "&lt;"
    (replaceAll '&' "&amp;" value)))

/-- The lines of the HTML before the title. -/
def linesBefore (locale : Language) (copy : AlertCopy) : List String := [
    "<!doctype html>",
    "<html lang=\"" ++ locale.text ++ "\">",
    "  <body style=\"margin:0;padding:24px;background:#f4f5f7;font-family:-apple-system," ++
      "BlinkMacSystemFont,'Segoe UI',Roboto,Helvetica,Arial,sans-serif;\">",
    "    <div style=\"max-width:480px;margin:0 auto;background:#ffffff;border-radius:12px;" ++
      "padding:32px;\">",
    "      <p style=\"margin:0 0 8px;font-size:13px;color:#6b7280;\">",
    "        " ++ escapeHtml copy.intro,
    "      </p>",
    "      <h1 style=\"margin:0 0 16px;font-size:20px;font-weight:600;color:#111827;\">"]

/-- The lines between the title and the body. -/
def linesBetween : List String := [
    "      </h1>",
    "      <p style=\"margin:0 0 24px;font-size:16px;line-height:1.6;color:#111827;\">"]

/-- The lines after the body. -/
def linesAfter (copy : AlertCopy) : List String := [
    "      </p>",
    "      <hr style=\"margin:0;border:none;border-top:1px solid #e5e7eb;\" />",
    "      <p style=\"margin:16px 0 0;font-size:12px;line-height:1.6;color:#9ca3af;\">",
    "        " ++ escapeHtml copy.settings,
    "      </p>",
    "      <p style=\"margin:12px 0 0;font-size:12px;color:#9ca3af;\">",
    "        " ++ escapeHtml copy.footer,
    "      </p>",
    "    </div>",
    "  </body>",
    "</html>"]

def alertHtml (input : AlertMailInput) (copy : AlertCopy) : String :=
  String.intercalate "\n" (linesBefore input.locale copy ++
    ("        " ++ escapeHtml input.title) :: (linesBetween ++
      ("        " ++ escapeHtml input.body) :: linesAfter copy))

def alertMail (input : AlertMailInput) : OutboundMail :=
  let copy := alertCopy input.locale
  { address := input.address
    subject := input.title
    text := String.intercalate "\n"
      [input.title, "", input.body, "", copy.settings, "", copy.footer]
    html := alertHtml input copy }

end ElectroSync
