import Showcase.Portfolio.Clock
import Showcase.Portfolio.Theme

/-!
# Entries

What the portfolio can show, and the text of each entry.
-/

namespace Showcase.Portfolio

open Showcase.Text (Line Span)

inductive Category where
  | portfolio
  | system
  deriving DecidableEq

inductive Entry where
  | about
  | skills
  | experience
  | links
  | help
  | date
  | whoami
  deriving DecidableEq

def Category.title : Category → String
  | portfolio => "Portfolio Commands:"
  | system => "System Commands:"

namespace Entry

/-- All entries in the order of the menu. -/
def all : List Entry := [about, skills, experience, links, help, date, whoami]

def name : Entry → String
  | about => "about"
  | skills => "skills"
  | experience => "experience"
  | links => "links"
  | help => "help"
  | date => "date"
  | whoami => "whoami"

def description : Entry → String
  | about => "Learn about me"
  | skills => "View my technical skills"
  | experience => "View my work experience"
  | links => "View my social links"
  | help => "Show all available commands"
  | date => "Display current date and time"
  | whoami => "Display current user info"

def category : Entry → Category
  | about | skills | experience | links => .portfolio
  | help | date | whoami => .system

def inCategory (category : Category) : List Entry :=
  all.filter fun entry => entry.category == category

end Entry

namespace Content

def fill (count : Nat) (c : Char) : String := String.ofList (List.replicate count c)

/-- Text with blanks behind it up to a number of characters. -/
def padRight (width : Nat) (text : String) : String := text ++ fill (width - text.length) ' '

def headerWidth : Nat := 60

/-- A title in a double box, and a blank line. -/
def header (palette : Palette) (title : String) : List Line :=
  let inner := headerWidth - 2
  [palette.line .title ("╔" ++ fill inner '═' ++ "╗"),
    palette.line .title ("║" ++ padRight inner ("  " ++ title) ++ "║"),
    palette.line .title ("╚" ++ fill inner '═' ++ "╝"),
    .blank]

def field (palette : Palette) (label value : String) : Line :=
  .ofSpans [palette.span .label (label ++ " "), palette.span .value value]

def paragraph (palette : Palette) (role : Role) (rows : List String) : List Line :=
  rows.map (palette.line role)

def about (palette : Palette) : List Line :=
  header palette "ABOUT ME"
    ++ [field palette "Name:" "John Doe",
      field palette "Role:" "Full Stack Developer & Tech Enthusiast",
      field palette "Location:" "San Francisco, CA",
      .blank]
    ++ paragraph palette .body
      ["Hello! I'm a passionate developer who loves building",
        "innovative web applications and exploring cutting-edge",
        "technologies. With expertise in both frontend and backend",
        "development, I create seamless digital experiences that",
        "make a difference."]
    ++ [.blank]
    ++ paragraph palette .accent
      ["When I'm not coding, you'll find me contributing to open",
        "source projects, mentoring aspiring developers, or diving",
        "into the latest tech trends."]
    ++ [.blank,
      palette.line .dim "Open 'skills' or 'experience' to learn more about my background."]

structure Skill where
  category : String
  first : String
  second : String

def skillTable : List Skill :=
  [⟨"Frontend", "React, Vue.js, TypeScript", "Next.js, Astro, Tailwind CSS"⟩,
    ⟨"Backend", "Node.js, Python, Go", "Express, FastAPI, PostgreSQL"⟩,
    ⟨"DevOps & Tools", "Docker, Kubernetes, AWS", "Git, CI/CD, Terraform"⟩,
    ⟨"Databases", "PostgreSQL, MongoDB, Redis", "GraphQL, REST APIs"⟩,
    ⟨"Other", "WebSockets, WebAssembly", "Testing, Agile, TDD"⟩]

def leftWidth : Nat := 22

def rightWidth : Nat := 32

/-- A horizontal rule of the table with its left end, crossing and right end. -/
def tableRule (palette : Palette) (left middle right : String) : Line :=
  palette.line .tableBorder
    (left ++ fill (leftWidth + 2) '─' ++ middle ++ fill (rightWidth + 2) '─' ++ right)

def tableRow (palette : Palette) (role : Role) (left right : String) : Line :=
  .ofSpans [palette.span .tableBorder "│ ",
    palette.span role (padRight leftWidth left),
    palette.span .tableBorder " │ ",
    palette.span role (padRight rightWidth right),
    palette.span .tableBorder " │"]

def skillRows (palette : Palette) (skill : Skill) : List Line :=
  [tableRule palette "├" "┼" "┤",
    tableRow palette .body skill.category skill.first,
    tableRow palette .body "" skill.second]

def skills (palette : Palette) : List Line :=
  header palette "TECHNICAL SKILLS"
    ++ [tableRule palette "┌" "┬" "┐",
      tableRow palette .tableHeader "Category" "Technologies"]
    ++ skillTable.flatMap (skillRows palette)
    ++ [tableRule palette "└" "┴" "┘",
      .blank,
      palette.line .accent "★ Proficiency Level: Expert ████████░░ (80%)"]

structure Job where
  role : String
  company : String
  period : String
  summary : String

def jobs : List Job :=
  [⟨"Senior Full Stack Developer", "Tech Innovators Inc.", "2021 - Present",
      "Leading development of cloud-native applications, mentoring junior developers."⟩,
    ⟨"Full Stack Developer", "StartupXYZ", "2019 - 2021",
      "Built scalable microservices architecture, implemented CI/CD pipelines."⟩,
    ⟨"Junior Developer", "WebDev Solutions", "2017 - 2019",
      "Developed responsive web applications, collaborated on agile teams."⟩]

def jobLines (palette : Palette) (job : Job) : List Line :=
  [palette.line .label job.role,
    .ofSpans [palette.span .value job.company, .raw " | ", palette.span .dim job.period],
    palette.line .body job.summary]

def experience (palette : Palette) : List Line :=
  header palette "WORK EXPERIENCE" ++ [.blank].intercalate (jobs.map (jobLines palette))

structure Link where
  icon : String
  name : String
  address : String

def linkList : List Link :=
  [⟨"⚡", "GitHub", "github.com/yourusername"⟩,
    ⟨"💼", "LinkedIn", "linkedin.com/in/yourprofile"⟩,
    ⟨"🐦", "Twitter", "twitter.com/yourhandle"⟩,
    ⟨"📧", "Email", "your.email@example.com"⟩,
    ⟨"🌐", "Website", "yourwebsite.com"⟩]

def linkLine (palette : Palette) (link : Link) : Line :=
  .ofSpans [.raw (link.icon ++ " "), palette.span .label (link.name ++ ": "),
    palette.span .value link.address]

def links (palette : Palette) : List Line :=
  header palette "SOCIAL LINKS" ++ linkList.map (linkLine palette)
    ++ [.blank, palette.line .dim "Feel free to reach out!"]

def entryLine (palette : Palette) (entry : Entry) : Line :=
  .ofSpans [.raw "  ", palette.span .value (padRight 12 entry.name), .raw " ",
    palette.span .body entry.description]

def entryLines (palette : Palette) (label : String) (category : Category) : List Line :=
  palette.line .label label :: (Entry.inCategory category).map (entryLine palette)

/-- The listing of entries; the key bindings follow it. -/
def help (palette : Palette) : List Line :=
  header palette "AVAILABLE COMMANDS"
    ++ entryLines palette "Portfolio:" .portfolio
    ++ [.blank]
    ++ entryLines palette "System:" .system
    ++ [.blank, palette.line .dim "Navigation Tips:"]

def date (palette : Palette) (clock : Clock) : List Line :=
  [field palette "Date:" clock.dateText, field palette "Time:" clock.timeText]

def whoami (palette : Palette) : List Line :=
  [palette.line .label "SSH User:", palette.line .value "guest@genar.me"]

end Content

/-- The text of an entry at the time that a clock shows. -/
def Entry.lines (palette : Palette) (clock : Clock) : Entry → List Line
  | about => Content.about palette
  | skills => Content.skills palette
  | experience => Content.experience palette
  | links => Content.links palette
  | help => Content.help palette
  | date => Content.date palette clock
  | whoami => Content.whoami palette

end Showcase.Portfolio
