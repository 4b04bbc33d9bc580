import RowSql.Function
import RowSql.Function.Registry
/-!
# Builtin — the built-in functions

Every function with its names, its arity and its documentation, in the order of listings.
-/
namespace RowSql
namespace Builtin

/-- A form of a function. -/
def form (names : List String) (arity : Arity) (category : Category) (call explanation sample : String)
    (f : Function) : Form Function :=
  ⟨names, arity, ⟨category, call, explanation, sample⟩, f⟩

/-- The functions on arrays. -/
def arrays : List (Form Function) := [
  form ["array"] (.atLeast 0) .array "array(value1, value2, ...)"
    "Builds an array from the arguments, nulls included."
    "array('he', 7, 'xxd') = [he, 7, xxd]" (.array .build),
  form ["array_except"] (.exactly 2) .array "array_except(array1, array2)"
    ("Elements of array1 absent from array2, without duplicates, in array1 order. " ++
      "Null when either array is empty or nothing is left.")
    "array_except(array(1, 2, 2, 3), array(3)) = [1, 2]" (.array .except),
  form ["array_position"] (.exactly 2) .array "array_position(array, element)"
    "1-based position of the first occurrence of element, 0 when absent. Null elements are skipped."
    "array_position(array('he', 7, 'xxd'), 'he') = 1" (.array .position),
  form ["array_contains"] (.exactly 2) .array "array_contains(array, element)"
    "Whether the array holds element."
    "array_contains(array(1, 2), 2) = true" (.array .contains),
  form ["array_distinct"] (.exactly 1) .array "array_distinct(array)"
    "Removes duplicates, keeping first occurrences."
    "array_distinct(array(1, 1, 2)) = [1, 2]" (.array .distinct),
  form ["array_intersect"] (.exactly 2) .array "array_intersect(array1, array2)"
    "Distinct elements of array1 also present in array2."
    "array_intersect(array(1, 2, 3), array(3, 1)) = [1, 3]" (.array .intersect),
  form ["array_union"] (.exactly 2) .array "array_union(array1, array2)"
    "Distinct elements of both arrays."
    "array_union(array(1, 2), array(2, 3)) = [1, 2, 3]" (.array .union),
  form ["array_concat"] (.atLeast 1) .array "array_concat(array1, array2, ...)"
    "Concatenates arrays."
    "array_concat(array(1), array(2, 3)) = [1, 2, 3]" (.array .concat),
  form ["array_append"] (.exactly 2) .array "array_append(array, element)"
    "Appends element, which may be null."
    "array_append(array(1), 2) = [1, 2]" (.array .append),
  form ["array_prepend"] (.exactly 2) .array "array_prepend(array, element)"
    "Prepends element, which may be null."
    "array_prepend(array(1), 0) = [0, 1]" (.array .prepend),
  form ["array_remove"] (.exactly 2) .array "array_remove(array, element)"
    "Removes every occurrence of element."
    "array_remove(array(1, 2, 1), 1) = [2]" (.array .remove),
  form ["array_reverse"] (.exactly 1) .array "array_reverse(array)"
    "Elements in reverse order."
    "array_reverse(array(1, 2)) = [2, 1]" (.array .reverse),
  form ["array_slice"] (.between 2 3) .array "array_slice(array, start[, length])"
    "Sub-array from 1-based start (negative counts from the end), up to length elements."
    "array_slice(array(1, 2, 3, 4), 2, 2) = [2, 3]" (.array .slice),
  form ["array_max"] (.exactly 1) .array "array_max(array)"
    "Largest non-null element."
    "array_max(array(1, 3, 2)) = 3" (.array .max),
  form ["array_min"] (.exactly 1) .array "array_min(array)"
    "Smallest non-null element."
    "array_min(array(1, 3, 2)) = 1" (.array .min),
  form ["array_join"] (.between 2 3) .array "array_join(array, delimiter[, null_replacement])"
    "Joins elements as text. Null elements are skipped unless a replacement is given."
    "array_join(array('a', 'b'), '-') = a-b" (.array .join),
  form ["cardinality", "array_length"] (.exactly 1) .array "cardinality(array)"
    "Number of elements."
    "cardinality(array(1, 2)) = 2" (.array .count),
  form ["element_at"] (.exactly 2) .array "element_at(array, index)"
    "Element at 1-based index, negative counts from the end. Null when out of range."
    "element_at(array('a', 'b'), -1) = b" (.array .elementAt)]

/-- The functions on numbers. -/
def numbers : List (Form Function) := [
  form ["sqrt"] (.exactly 1) .arithmetic "sqrt(numeric)"
    "Square root; null for negative input."
    "sqrt(16) = 4.0" (.float .sqrt),
  form ["cbrt"] (.exactly 1) .arithmetic "cbrt(numeric)"
    "Real cube root, sign preserving."
    "cbrt(-27) = -3.0" (.float .cbrt),
  form ["exp"] (.exactly 1) .arithmetic "exp(numeric)"
    "e raised to the power of numeric."
    "exp(0) = 1.0" (.float .exp),
  form ["ln"] (.exactly 1) .arithmetic "ln(numeric)"
    "Natural logarithm; null for non-positive input."
    "ln(1) = 0.0" (.float .ln),
  form ["log"] (.exactly 1) .arithmetic "log(numeric)"
    "Natural logarithm; null for non-positive input."
    "log(1) = 0.0" (.float .ln),
  form ["log10"] (.exactly 1) .arithmetic "log10(numeric)"
    "Base 10 logarithm."
    "log10(100) = 2.0" (.float .log10),
  form ["log2"] (.exactly 1) .arithmetic "log2(numeric)"
    "Base 2 logarithm."
    "log2(8) = 3.0" (.float .log2),
  form ["sin"] (.exactly 1) .arithmetic "sin(numeric)"
    "Sine of an angle in radians."
    "sin(0) = 0.0" (.float .sin),
  form ["cos"] (.exactly 1) .arithmetic "cos(numeric)"
    "Cosine of an angle in radians."
    "cos(0) = 1.0" (.float .cos),
  form ["tan"] (.exactly 1) .arithmetic "tan(numeric)"
    "Tangent of an angle in radians."
    "tan(0) = 0.0" (.float .tan),
  form ["cot"] (.exactly 1) .arithmetic "cot(numeric)"
    "Cotangent of an angle in radians."
    "cot(1) = 0.6420926159343306" (.float .cot),
  form ["asin"] (.exactly 1) .arithmetic "asin(numeric)"
    "Arc sine in radians."
    "asin(1) = 1.5707963267948966" (.float .asin),
  form ["acos"] (.exactly 1) .arithmetic "acos(numeric)"
    "Arc cosine in radians."
    "acos(1) = 0.0" (.float .acos),
  form ["atan"] (.exactly 1) .arithmetic "atan(numeric)"
    "Arc tangent in radians."
    "atan(0) = 0.0" (.float .atan),
  form ["sind"] (.exactly 1) .arithmetic "sind(numeric)"
    "Sine of an angle in degrees."
    "sind(30) = 0.49999999999999994" (.float .sinDegrees),
  form ["cosd"] (.exactly 1) .arithmetic "cosd(numeric)"
    "Cosine of an angle in degrees."
    "cosd(0) = 1.0" (.float .cosDegrees),
  form ["tand"] (.exactly 1) .arithmetic "tand(numeric)"
    "Tangent of an angle in degrees."
    "tand(0) = 0.0" (.float .tanDegrees),
  form ["asind"] (.exactly 1) .arithmetic "asind(numeric)"
    "Arc sine in degrees."
    "asind(1) = 90.0" (.float .asinDegrees),
  form ["acosd"] (.exactly 1) .arithmetic "acosd(numeric)"
    "Arc cosine in degrees."
    "acosd(1) = 0.0" (.float .acosDegrees),
  form ["atand"] (.exactly 1) .arithmetic "atand(numeric)"
    "Arc tangent in degrees."
    "atand(1) = 45.0" (.float .atanDegrees),
  form ["sinh"] (.exactly 1) .arithmetic "sinh(numeric)"
    "Hyperbolic sine."
    "sinh(0) = 0.0" (.float .sinh),
  form ["cosh"] (.exactly 1) .arithmetic "cosh(numeric)"
    "Hyperbolic cosine."
    "cosh(0) = 1.0" (.float .cosh),
  form ["tanh"] (.exactly 1) .arithmetic "tanh(numeric)"
    "Hyperbolic tangent."
    "tanh(0) = 0.0" (.float .tanh),
  form ["degrees"] (.exactly 1) .arithmetic "degrees(numeric)"
    "Radians to degrees."
    "degrees(pi()) = 180.0" (.float .degrees),
  form ["radians"] (.exactly 1) .arithmetic "radians(numeric)"
    "Degrees to radians."
    "radians(180) = 3.141592653589793" (.float .radians),
  form ["log"] (.exactly 2) .arithmetic "log(base, numeric)"
    "Logarithm of numeric in the given base."
    "log(2, 8) = 3.0" (.number .logBase),
  form ["atan2"] (.exactly 2) .arithmetic "atan2(y, x)"
    "Angle of the point (x, y) in radians."
    "atan2(1, 1) = 0.7853981633974483" (.number .atan2),
  form ["atan2d"] (.exactly 2) .arithmetic "atan2d(y, x)"
    "Angle of the point (x, y) in degrees."
    "atan2d(1, 1) = 45.0" (.number .atan2Degrees),
  form ["power", "pow"] (.exactly 2) .arithmetic "power(base, exponent)"
    "base raised to exponent."
    "power(2, 10) = 1024.0" (.number .power),
  form ["abs"] (.exactly 1) .arithmetic "abs(numeric)"
    "Absolute value."
    "abs(-3) = 3" (.number .abs),
  form ["mod"] (.exactly 2) .arithmetic "mod(dividend, divisor)"
    "Remainder of the division."
    "mod(7, 3) = 1" (.number .rem),
  form ["ceil", "ceiling"] (.exactly 1) .arithmetic "ceil(numeric)"
    "Smallest integer not less than numeric."
    "ceil(1.2) = 2" (.number .ceil),
  form ["floor"] (.exactly 1) .arithmetic "floor(numeric)"
    "Largest integer not greater than numeric."
    "floor(1.8) = 1" (.number .floor),
  form ["round"] (.between 1 2) .arithmetic "round(numeric[, scale])"
    "Rounds half away from zero to scale decimal places (default 0, at most 1000 either way)."
    "round(3.14159, 2) = 3.14" (.number .round),
  form ["truncate"] (.between 1 2) .arithmetic "truncate(numeric[, scale])"
    "Drops digits beyond scale decimal places (default 0, at most 1000 either way)."
    "truncate(3.789, 1) = 3.7" (.number .truncate),
  form ["sign"] (.exactly 1) .arithmetic "sign(numeric)"
    "-1, 0 or 1 by the sign of numeric."
    "sign(-8) = -1" (.number .sign),
  form ["pi"] (.exactly 0) .arithmetic "pi()"
    "The constant pi."
    "pi() = 3.141592653589793" (.number .pi),
  form ["greatest"] (.atLeast 1) .arithmetic "greatest(value1, value2, ...)"
    "Largest argument; null if any argument is null."
    "greatest(1, 5, 3) = 5" (.number .greatest),
  form ["least"] (.atLeast 1) .arithmetic "least(value1, value2, ...)"
    "Smallest argument; null if any argument is null."
    "least(1, 5, 3) = 1" (.number .least),
  form ["bin"] (.exactly 1) .arithmetic "bin(integer)"
    "Binary representation of an integer."
    "bin(4) = 100" (.number .bin),
  form ["hex"] (.exactly 1) .arithmetic "hex(value)"
    "Hexadecimal form of an integer, or of the bytes of a string."
    "hex(255) = FF" (.number .hex)]

/-- The functions on texts. -/
def texts : List (Form Function) := [
  form ["upper", "ucase"] (.exactly 1) .string "upper(string)"
    "Upper-cases the string."
    "upper('ab') = AB" (.text .upper),
  form ["lower", "lcase"] (.exactly 1) .string "lower(string)"
    "Lower-cases the string."
    "lower('AB') = ab" (.text .lower),
  form ["length", "char_length"] (.exactly 1) .string "length(string)"
    "Number of characters."
    "length('héllo') = 5" (.text .length),
  form ["concat"] (.atLeast 1) .string "concat(string1, string2, ...)"
    "Concatenates the arguments; null if any is null."
    "concat('a', 1) = a1" (.text .concat),
  form ["concat_ws"] (.atLeast 1) .string "concat_ws(separator, string1, ...)"
    "Joins the non-null arguments with separator."
    "concat_ws('-', 'a', null, 'b') = a-b" (.text .concatWith),
  form ["substring", "substr"] (.between 2 3) .string "substring(string, start[, length])"
    "Characters from 1-based start (negative counts from the end)."
    "substring('hello', 2, 3) = ell" (.text .substring),
  form ["trim"] (.between 1 2) .string "trim(string[, characters])"
    "Strips whitespace, or the given characters, from both ends."
    "trim('  a  ') = a" (.text .trim),
  form ["ltrim"] (.between 1 2) .string "ltrim(string[, characters])"
    "Strips leading whitespace or characters."
    "ltrim('  a') = a" (.text .trimLeft),
  form ["rtrim"] (.between 1 2) .string "rtrim(string[, characters])"
    "Strips trailing whitespace or characters."
    "rtrim('a  ') = a" (.text .trimRight),
  form ["replace"] (.exactly 3) .string "replace(string, search, replacement)"
    "Replaces every occurrence of search."
    "replace('aXbX', 'X', '-') = a-b-" (.text .replace),
  form ["reverse"] (.exactly 1) .string "reverse(string)"
    "Characters in reverse order."
    "reverse('abc') = cba" (.text .reverse),
  form ["left"] (.exactly 2) .string "left(string, n)"
    "First n characters."
    "left('hello', 2) = he" (.text .left),
  form ["right"] (.exactly 2) .string "right(string, n)"
    "Last n characters."
    "right('hello', 2) = lo" (.text .right),
  form ["lpad"] (.exactly 3) .string "lpad(string, length, pad)"
    "Left-pads to length with pad; longer strings are cut. Null above 1 MiB."
    "lpad('7', 3, '0') = 007" (.text .padLeft),
  form ["rpad"] (.exactly 3) .string "rpad(string, length, pad)"
    "Right-pads to length with pad; longer strings are cut. Null above 1 MiB."
    "rpad('7', 3, '0') = 700" (.text .padRight),
  form ["locate"] (.between 2 3) .string "locate(substring, string[, start])"
    "1-based position of substring at or after start, 0 when absent."
    "locate('l', 'hello') = 3" (.text .locate),
  form ["instr"] (.exactly 2) .string "instr(string, substring)"
    "1-based position of substring, 0 when absent."
    "instr('hello', 'l') = 3" (.text .find),
  form ["repeat"] (.exactly 2) .string "repeat(string, n)"
    "The string repeated n times; null when the result would exceed 1 MiB."
    "repeat('ab', 2) = abab" (.text .times),
  form ["split_index"] (.exactly 3) .string "split_index(string, separator, index)"
    "The 0-based index-th piece after splitting by separator."
    "split_index('a,b,c', ',', 1) = b" (.text .splitIndex),
  form ["regexp_like", "regexp"] (.exactly 2) .string "regexp_like(string, pattern)"
    "Whether the string contains a match of pattern."
    "regexp_like('abc123', '[0-9]+') = true" (.pattern .occurs),
  form ["regexp_replace"] (.exactly 3) .string "regexp_replace(string, pattern, replacement)"
    "Replaces every match of pattern."
    "regexp_replace('a1b22', '[0-9]+', '#') = a#b#" (.pattern .replace),
  form ["regexp_extract"] (.between 2 3) .string "regexp_extract(string, pattern[, group])"
    "The given capture group (default 1, or 0 without groups) of the first match."
    "regexp_extract('foo123', '([a-z]+)([0-9]+)', 2) = 123" (.pattern .extract),
  form ["to_base64"] (.exactly 1) .string "to_base64(string)"
    "Base64 encoding of the UTF-8 bytes."
    "to_base64('hi') = aGk=" (.text .toBase64),
  form ["from_base64"] (.exactly 1) .string "from_base64(string)"
    "Decodes base64 text; null when invalid."
    "from_base64('aGk=') = hi" (.text .fromBase64),
  form ["ascii"] (.exactly 1) .string "ascii(string)"
    "Code of the first byte, 0 for an empty string."
    "ascii('A') = 65" (.text .firstByte),
  form ["initcap"] (.exactly 1) .string "initcap(string)"
    "Upper-cases the first letter of each word, lower-cases the rest."
    "initcap('hELLO wORLD') = Hello World" (.text .capitalize)]

/-- The functions on dates and times. -/
def times : List (Form Function) := [
  form ["now", "localtimestamp", "current_timestamp"] (.exactly 0) .temporal "now()"
    "Processing time of the current pass; identical for every row of it."
    "now() = 2024-03-15 10:30:45" (.time .now),
  form ["current_date"] (.exactly 0) .temporal "current_date()"
    "Date of the processing time."
    "current_date() = 2024-03-15" (.time .today),
  form ["unix_timestamp"] (.between 0 2) .temporal "unix_timestamp([timestamp[, format]])"
    "Seconds since the epoch, of the processing time or of the given timestamp."
    "unix_timestamp('1970-01-01 00:01:00') = 60" (.time .toSeconds),
  form ["from_unixtime"] (.between 1 2) .temporal "from_unixtime(seconds[, format])"
    "Formats epoch seconds, default yyyy-MM-dd HH:mm:ss."
    "from_unixtime(60) = 1970-01-01 00:01:00" (.time .ofSeconds),
  form ["to_date"] (.between 1 2) .temporal "to_date(string[, format])"
    "Parses a date, returned as yyyy-MM-dd."
    "to_date('20240315', 'yyyyMMdd') = 2024-03-15" (.time .toDate),
  form ["date_format"] (.exactly 2) .temporal "date_format(timestamp, format)"
    "Formats a timestamp with a Java-style pattern."
    "date_format('2024-03-15 10:30:45', 'yyyy/MM/dd HH') = 2024/03/15 10" (.time .format),
  form ["year"] (.exactly 1) .temporal "year(timestamp)"
    "Year of the timestamp."
    "year('2024-03-15') = 2024" (.time (.part .year)),
  form ["quarter"] (.exactly 1) .temporal "quarter(timestamp)"
    "Quarter of the year, 1 to 4."
    "quarter('2024-03-15') = 1" (.time (.part .quarter)),
  form ["month"] (.exactly 1) .temporal "month(timestamp)"
    "Month, 1 to 12."
    "month('2024-03-15') = 3" (.time (.part .month)),
  form ["week"] (.exactly 1) .temporal "week(timestamp)"
    "ISO week of the year."
    "week('2024-03-15') = 11" (.time (.part .week)),
  form ["dayofyear"] (.exactly 1) .temporal "dayofyear(timestamp)"
    "Day of the year, 1 to 366."
    "dayofyear('2024-03-15') = 75" (.time (.part .dayOfYear)),
  form ["dayofmonth"] (.exactly 1) .temporal "dayofmonth(timestamp)"
    "Day of the month."
    "dayofmonth('2024-03-15') = 15" (.time (.part .dayOfMonth)),
  form ["dayofweek"] (.exactly 1) .temporal "dayofweek(timestamp)"
    "Day of the week, 1 = Sunday to 7 = Saturday."
    "dayofweek('2024-03-15') = 6" (.time (.part .dayOfWeek)),
  form ["hour"] (.exactly 1) .temporal "hour(timestamp)"
    "Hour, 0 to 23."
    "hour('2024-03-15 10:30:45') = 10" (.time (.part .hour)),
  form ["minute"] (.exactly 1) .temporal "minute(timestamp)"
    "Minute, 0 to 59."
    "minute('2024-03-15 10:30:45') = 30" (.time (.part .minute)),
  form ["second"] (.exactly 1) .temporal "second(timestamp)"
    "Second, 0 to 59."
    "second('2024-03-15 10:30:45') = 45" (.time (.part .second)),
  form ["date_add"] (.exactly 2) .temporal "date_add(date, days)"
    "Date shifted forward by days."
    "date_add('2024-02-28', 2) = 2024-03-01" (.time .addDays),
  form ["date_sub"] (.exactly 2) .temporal "date_sub(date, days)"
    "Date shifted back by days."
    "date_sub('2024-03-01', 1) = 2024-02-29" (.time .subDays),
  form ["datediff"] (.exactly 2) .temporal "datediff(end, start)"
    "Days from start to end."
    "datediff('2024-03-15', '2024-03-01') = 14" (.time .daysBetween)]

/-- The functions on conditions. -/
def conditions : List (Form Function) := [
  form ["if"] (.exactly 3) .conditional "if(condition, then, else)"
    "then when condition is true, else otherwise (including null)."
    "if(1 > 0, 'yes', 'no') = yes" .choice,
  form ["coalesce"] (.atLeast 1) .conditional "coalesce(value, ...)"
    "First argument that is not null."
    "coalesce(null, 2, 3) = 2" .firstPresent,
  form ["ifnull", "nvl"] (.exactly 2) .conditional "ifnull(value, fallback)"
    "fallback when value is null."
    "ifnull(null, 'n/a') = n/a" .firstPresent,
  form ["nullif"] (.exactly 2) .conditional "nullif(a, b)"
    "null when a equals b, otherwise a."
    "nullif(1, 1) = null" (.condition .nullIf),
  form ["isnull"] (.exactly 1) .conditional "isnull(value)"
    "true when value is null."
    "isnull(null) = true" (.condition .isNull),
  form ["is_numeric", "isnumeric"] (.exactly 1) .conditional "is_numeric(value)"
    "true when value is a number or text parseable as one; false for null."
    "is_numeric('1.5e3') = true" (.condition .isNumeric)]
/-- **The built-in functions.** -/
def registry : Registry Function := .ofForms (arrays ++ numbers ++ texts ++ times ++ conditions)

end Builtin
end RowSql
