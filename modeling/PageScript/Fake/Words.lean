/-!
# Word lists

The words that synthetic data is put together from.
-/

namespace PageScript

namespace Fake

/-- First names. -/
def firstNames : List String :=
  ["James", "Mary", "Robert", "Patricia", "John", "Jennifer", "Michael", "Linda", "David",
    "Elizabeth", "William", "Barbara", "Richard", "Susan", "Joseph", "Jessica", "Thomas",
    "Sarah", "Charles", "Karen", "Daniel", "Nancy", "Matthew", "Lisa", "Anthony", "Betty"]

/-- Last names. -/
def lastNames : List String :=
  ["Smith", "Johnson", "Williams", "Brown", "Jones", "Garcia", "Miller", "Davis", "Rodriguez",
    "Martinez", "Hernandez", "Lopez", "Gonzalez", "Wilson", "Anderson", "Thomas", "Taylor",
    "Moore", "Jackson", "Martin", "Lee", "Perez", "Thompson", "White", "Harris", "Clark"]

/-- Words behind the name of a street. -/
def streetEndings : List String :=
  ["Street", "Avenue", "Road", "Lane", "Drive", "Court", "Way"]

/-- Cities. -/
def cities : List String :=
  ["Springfield", "Riverside", "Franklin", "Greenville", "Bristol", "Clinton", "Fairview",
    "Salem", "Madison", "Georgetown", "Arlington", "Ashland", "Dover", "Milton"]

/-- States, by their two letters. -/
def states : List String :=
  ["AL", "AK", "AZ", "CA", "CO", "CT", "FL", "GA", "IL", "IN", "MA", "MI", "MN", "NC", "NJ",
    "NY", "OH", "OR", "PA", "TX", "VA", "WA", "WI"]

/-- Countries. -/
def countries : List String :=
  ["United States", "Canada", "Mexico", "Brazil", "United Kingdom", "France", "Germany",
    "Spain", "Italy", "Japan", "Australia", "India", "Norway", "Kenya"]

/-- Words behind the name of a company. -/
def companyEndings : List String := ["Inc", "LLC", "Group", "and Sons", "Ltd", "PLC"]

/-- Domains of mail addresses. -/
def mailDomains : List String := ["example.com", "example.org", "example.net"]

/-- Top-level domains. -/
def topDomains : List String := ["com", "org", "net", "info", "biz"]

/-- Words of sentences. -/
def words : List String :=
  ["alias", "consequatur", "aut", "perferendis", "sit", "voluptatem", "accusantium",
    "doloremque", "aperiam", "eaque", "ipsa", "quae", "ab", "illo", "inventore", "veritatis",
    "et", "quasi", "architecto", "beatae", "vitae", "dicta", "sunt", "explicabo", "nemo",
    "enim", "ipsam", "quia", "voluptas", "aspernatur", "odit", "fugit", "sed", "magni"]

/-- Characters of passwords, without those that look alike. -/
def passwordLetters : List Char :=
  "abcdefghijkmnopqrstuvwxyzABCDEFGHJKLMNPQRSTUVWXYZ23456789!@#$%".toList

end Fake

end PageScript
