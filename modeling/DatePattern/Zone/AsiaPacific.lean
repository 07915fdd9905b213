import DatePattern.Zone.History

/-! Offset histories of zones in Asia, Australia and the Pacific. -/

namespace DatePattern.History

/-- The history of Asia/Dubai. -/
def dubai : History where
  name := "Asia/Dubai"
  offsets := [⟨13272, 0⟩, ⟨14400, 0⟩]
  changes := [
    "-1577936472b"]

/-- The history of Asia/Kolkata. -/
def kolkata : History where
  name := "Asia/Kolkata"
  offsets := [⟨21208, 0⟩, ⟨21200, 0⟩, ⟨19270, 0⟩, ⟨19800, 0⟩, ⟨19800, 3600⟩]
  changes := [
    "-3645237208b -3155694800c -2019705670d -891581400e -872058600d -862637400e -764145000d"]

/-- The history of Asia/Kathmandu. -/
def kathmandu : History where
  name := "Asia/Kathmandu"
  offsets := [⟨20476, 0⟩, ⟨19800, 0⟩, ⟨20700, 0⟩]
  changes := [
    "-1577943676b 504901800c"]

/-- The history of Asia/Shanghai. -/
def shanghai : History where
  name := "Asia/Shanghai"
  offsets := [⟨29143, 0⟩, ⟨28800, 0⟩, ⟨28800, 3600⟩]
  changes := [
    "-2177481943b -1600675200c -1585904400b -933667200c -922093200b -908870400c -888829200b",
    "-881049600c -767869200b -745833600c -733827600b -716889600c -699613200b -683884800c",
    "-670669200b -652348800c -650019600b 515527200c 527014800b 545162400c 558464400b 577216800c",
    "589914000b 608666400c 621968400b 640116000c 653418000b 671565600c 684867600b"]

/-- The history of Asia/Hong_Kong. -/
def hongKong : History where
  name := "Asia/Hong_Kong"
  offsets := [⟨27402, 0⟩, ⟨28800, 0⟩, ⟨28800, 3600⟩, ⟨28800, 1800⟩, ⟨32400, 0⟩]
  changes := [
    "-2056690800b -900910800c -891579600d -884248200e -761209200b -747907200c -728541000b",
    "-717049800c -697091400b -683785800c -668061000b -654755400c -636611400b -623305800c",
    "-605161800b -591856200c -573712200b -559801800c -541657800b -528352200c -510211800b",
    "-498112200c -478762200b -466662600c -446707800b -435213000c -415258200b -403158600c",
    "-383808600b -371709000c -352359000b -340259400c -320909400b -308809800c -288855000b",
    "-277360200c -257405400b -245910600c -225955800b -213856200c -194506200b -182406600c",
    "-163056600b -148537800c -132816600b -117088200c -101367000b -85638600c -69312600b",
    "-53584200c -37863000b -22134600c -6413400b 9315000c 25036200b 40764600c 56485800b 72214200c",
    "88540200b 104268600c 119989800b 126041400c 151439400b 167167800c 182889000b 198617400c",
    "214338600b 295385400c 309292200b"]

/-- The history of Asia/Tokyo. -/
def tokyo : History where
  name := "Asia/Tokyo"
  offsets := [⟨33539, 0⟩, ⟨32400, 0⟩, ⟨32400, 3600⟩]
  changes := [
    "-2587712400b -683802000c -672310800b -654771600c -640861200b -620298000c -609411600b",
    "-588848400c -577962000b"]

/-- The history of Asia/Seoul. -/
def seoul : History where
  name := "Asia/Seoul"
  offsets := [⟨30472, 0⟩, ⟨30600, 0⟩, ⟨32400, 0⟩, ⟨32400, 3600⟩, ⟨30600, 3600⟩]
  changes := [
    "-1948782472b -1830414600c -767350800c -681210000d -672228000c -654771600d -640864800c",
    "-623408400d -609415200c -588848400d -577965600c -498128400b -462702600e -451733400b",
    "-429784200e -418296600b -399544200e -387451800b -368094600e -356002200b -336645000e",
    "-324552600b -305195400e -293103000b -264933000c 547578000d 560883600c 579027600d 592333200c"]

/-- The history of Australia/Perth. -/
def perth : History where
  name := "Australia/Perth"
  offsets := [⟨27804, 0⟩, ⟨28800, 0⟩, ⟨28800, 3600⟩]
  changes := [
    "-2337925404b -1672552800c -1665381600b -883634400c -876117600b -860392800c -844668000b",
    "152042400c 162928800b 436298400c 447184800b 690314400c 699386400b 1165082400c 1174759200b",
    "1193508000c 1206813600b 1224957600c 1238263200b"]

/-- The history of Australia/Adelaide. -/
def adelaide : History where
  name := "Australia/Adelaide"
  offsets := [⟨33260, 0⟩, ⟨32400, 0⟩, ⟨34200, 0⟩, ⟨34200, 3600⟩]
  changes := [
    "-2364110060b -2230189200c -1672558200d -1665387000c -883639800d -876123000c -860398200d",
    "-844673400c -828343800d -813223800c 57688200d 67969800c 89137800d 100024200c 120587400d",
    "131473800c 152037000d 162923400c 183486600d 194977800c 215541000d 226427400c 246990600d",
    "257877000c 278440200d 289326600c 309889800d 320776200c 341339400d 352225800c 372789000d",
    "384280200c 404843400d 415729800c 436293000d 447179400c 467742600d 478629000c 499192200d",
    "511288200c 530037000d 542737800c 562091400d 574792200c 594145800d 606241800c 625595400d",
    "637691400c 657045000d 667931400c 688494600d 701195400c 719944200d 731435400c 751998600d",
    "764094600c 783448200d 796149000c 814897800d 828203400c 846347400d 859653000c 877797000d",
    "891102600c 909246600d 922552200c 941301000d 954001800c 972750600d 985451400c 1004200200d",
    "1017505800c 1035649800d 1048955400c 1067099400d 1080405000c 1099153800d 1111854600c",
    "1130603400d 1143909000c 1162053000d 1174753800c 1193502600d"]
  yearly := [⟨7, 3, 31, 59400, 'c'⟩, ⟨7, 9, 30, 59400, 'd'⟩]
  firstYear := 2008
  lastYear := 2099

/-- The history of Australia/Sydney. -/
def sydney : History where
  name := "Australia/Sydney"
  offsets := [⟨36292, 0⟩, ⟨36000, 0⟩, ⟨36000, 3600⟩]
  changes := [
    "-2364113092b -1672560000c -1665388800b -883641600c -876124800b -860400000c -844675200b",
    "-828345600c -813225600b 57686400c 67968000b 89136000c 100022400b 120585600c 131472000b",
    "152035200c 162921600b 183484800c 194976000b 215539200c 226425600b 246988800c 257875200b",
    "278438400c 289324800b 309888000c 320774400b 341337600c 352224000b 372787200c 386697600b",
    "404841600c 415728000b 436291200c 447177600b 467740800c 478627200b 499190400c 511286400b",
    "530035200c 542736000b 562089600c 574790400b 594144000c 606240000b 625593600c 636480000b",
    "657043200c 667929600b 688492800c 699379200b 719942400c 731433600b 751996800c 762883200b",
    "783446400c 794332800b 814896000c 828201600b 846345600c 859651200b 877795200c 891100800b",
    "909244800c 922550400b 941299200c 954000000b 967305600c 985449600b 1004198400c 1017504000b",
    "1035648000c 1048953600b 1067097600c 1080403200b 1099152000c 1111852800b 1130601600c",
    "1143907200b 1162051200c 1174752000b 1193500800c"]
  yearly := [⟨7, 3, 31, 57600, 'b'⟩, ⟨7, 9, 30, 57600, 'c'⟩]
  firstYear := 2008
  lastYear := 2099

/-- The history of Australia/Lord_Howe. -/
def lordHowe : History where
  name := "Australia/Lord_Howe"
  offsets := [⟨38180, 0⟩, ⟨36000, 0⟩, ⟨37800, 0⟩, ⟨37800, 3600⟩, ⟨37800, 1800⟩]
  changes := [
    "-2364114980b 352216800c 372785400d 384273000c 404839800d 415722600c 436289400d 447172200c",
    "467739000d 478621800c 499188600e 511282800c 530033400e 542732400c 562087800e 574786800c",
    "594142200e 606236400c 625591800e 636476400c 657041400e 667926000c 688491000e 699375600c",
    "719940600e 731430000c 751995000e 762879600c 783444600e 794329200c 814894200e 828198000c",
    "846343800e 859647600c 877793400e 891097200c 909243000e 922546800c 941297400e 953996400c",
    "967303800e 985446000c 1004196600e 1017500400c 1035646200e 1048950000c 1067095800e",
    "1080399600c 1099150200e 1111849200c 1130599800e 1143903600c 1162049400e 1174748400c",
    "1193499000e"]
  yearly := [⟨7, 3, 31, 54000, 'c'⟩, ⟨7, 9, 30, 55800, 'e'⟩]
  firstYear := 2008
  lastYear := 2099

/-- The history of Pacific/Auckland. -/
def auckland : History where
  name := "Pacific/Auckland"
  offsets := [⟨41944, 0⟩, ⟨41400, 0⟩, ⟨41400, 3600⟩, ⟨41400, 1800⟩, ⟨43200, 0⟩, ⟨43200, 3600⟩]
  changes := [
    "-3192435544b -1330335000c -1320057000b -1300699800d -1287396000b -1269250200d -1255946400b",
    "-1237800600d -1224496800b -1206351000d -1192442400b -1174901400d -1160992800b -1143451800d",
    "-1125914400b -1112607000d -1094464800b -1081157400d -1063015200b -1049707800d -1031565600b",
    "-1018258200d -1000116000b -986808600d -968061600b -955359000d -936612000b -923304600d",
    "-757425600e 152632800f 162309600e 183477600f 194968800e 215532000f 226418400e 246981600f",
    "257868000e 278431200f 289317600e 309880800f 320767200e 341330400f 352216800e 372780000f",
    "384271200e 404834400f 415720800e 436284000f 447170400e 467733600f 478620000e 499183200f",
    "510069600e 530632800f 541519200e 562082400f 573573600e 594136800f 605023200e 623772000f",
    "637682400e 655221600f 669132000e 686671200f 700581600e 718120800f 732636000e 749570400f",
    "764085600e 781020000f 795535200e 812469600f 826984800e 844524000f 858434400e 875973600f",
    "889884000e 907423200f 921938400e 938872800f 953388000e 970322400f 984837600e 1002376800f",
    "1016287200e 1033826400f 1047736800e 1065276000f 1079791200e 1096725600f 1111240800e",
    "1128175200f 1142690400e 1159624800f 1174140000e 1191074400f"]
  yearly := [⟨7, 3, 31, 50400, 'e'⟩, ⟨7, 9, 23, 50400, 'f'⟩]
  firstYear := 2008
  lastYear := 2099

/-- The history of Pacific/Apia. -/
def apia : History where
  name := "Pacific/Apia"
  offsets := [⟨45184, 0⟩, ⟨-41216, 0⟩, ⟨-41400, 0⟩, ⟨-39600, 0⟩, ⟨-39600, 3600⟩, ⟨46800, 3600⟩,
    ⟨46800, 0⟩]
  changes := [
    "-2445424384b -1861878784c -631110600d 1285498800e 1301752800d 1316872800e 1325239200f",
    "1333202400g 1348927200f 1365256800g 1380376800f 1396706400g 1411826400f 1428156000g",
    "1443276000f 1459605600g 1474725600f 1491055200g 1506175200f 1522504800g 1538229600f",
    "1554559200g 1569679200f 1586008800g 1601128800f 1617458400g"]

/-- The history of Pacific/Kiritimati. -/
def kiritimati : History where
  name := "Pacific/Kiritimati"
  offsets := [⟨-37760, 0⟩, ⟨-38400, 0⟩, ⟨-36000, 0⟩, ⟨50400, 0⟩]
  changes := [
    "-2177415040b 307622400c 788868000d"]

/-- The history of Asia/Beirut. -/
def beirut : History where
  name := "Asia/Beirut"
  offsets := [⟨8520, 0⟩, ⟨7200, 0⟩, ⟨7200, 3600⟩]
  changes := [
    "-2840149320b -1570413600c -1552186800b -1538359200c -1522551600b -1507514400c -1490583600b",
    "-1473645600c -1460948400b -399866400c -386650800b -368330400c -355114800b -336794400c",
    "-323578800b -305172000c -291956400b -273636000c -260420400b 78012000c 86734800b 105055200c",
    "118270800b 136591200c 149806800b 168127200c 181342800b 199749600c 212965200b 231285600c",
    "244501200b 262735200c 275950800b 452210400c 466722000b 483746400c 498258000b 515282400c",
    "529794000b 546818400c 561330000b 581119200c 592952400b 610754400c 624488400b 641512800c",
    "656024400b 673048800c 687560400b 704671200c 718146000b 733269600c 748990800b 764719200c",
    "780440400b 796168800c 811890000b 828223200c 843944400b 859672800c 875394000b 891122400c",
    "906843600b"]
  yearly := [⟨7, 3, 24, 79200, 'c'⟩, ⟨7, 10, 24, 75600, 'b'⟩]
  firstYear := 1999
  lastYear := 2099

/-- The history of Pacific/Chatham. -/
def chatham : History where
  name := "Pacific/Chatham"
  offsets := [⟨44028, 0⟩, ⟨44100, 0⟩, ⟨45900, 0⟩, ⟨45900, 3600⟩]
  changes := [
    "-3192437628b -757426500c 152632800d 162309600c 183477600d 194968800c 215532000d 226418400c",
    "246981600d 257868000c 278431200d 289317600c 309880800d 320767200c 341330400d 352216800c",
    "372780000d 384271200c 404834400d 415720800c 436284000d 447170400c 467733600d 478620000c",
    "499183200d 510069600c 530632800d 541519200c 562082400d 573573600c 594136800d 605023200c",
    "623772000d 637682400c 655221600d 669132000c 686671200d 700581600c 718120800d 732636000c",
    "749570400d 764085600c 781020000d 795535200c 812469600d 826984800c 844524000d 858434400c",
    "875973600d 889884000c 907423200d 921938400c 938872800d 953388000c 970322400d 984837600c",
    "1002376800d 1016287200c 1033826400d 1047736800c 1065276000d 1079791200c 1096725600d",
    "1111240800c 1128175200d 1142690400c 1159624800d 1174140000c 1191074400d"]
  yearly := [⟨7, 3, 31, 50400, 'c'⟩, ⟨7, 9, 23, 50400, 'd'⟩]
  firstYear := 2008
  lastYear := 2099

/-- The history of Asia/Kamchatka. -/
def kamchatka : History where
  name := "Asia/Kamchatka"
  offsets := [⟨38076, 0⟩, ⟨39600, 0⟩, ⟨43200, 0⟩, ⟨43200, 3600⟩, ⟨39600, 3600⟩]
  changes := [
    "-1487759676b -1247569200c 354888000d 370695600c 386424000d 402231600c 417960000d",
    "433767600c 449582400d 465314400c 481039200d 496764000c 512488800d 528213600c 543938400d",
    "559663200c 575388000d 591112800c 606837600d 622562400c 638287200d 654616800c 670341600e",
    "686070000b 695746800c 701791200d 717516000c 733240800d 748965600c 764690400d 780415200c",
    "796140000d 811864800c 828194400d 846338400c 859644000d 877788000c 891093600d 909237600c",
    "922543200d 941292000c 953992800d 972741600c 985442400d 1004191200c 1017496800d",
    "1035640800c 1048946400d 1067090400c 1080396000d 1099144800c 1111845600d 1130594400c",
    "1143295200d 1162044000c 1174744800d 1193493600c 1206799200d 1224943200c 1238248800d",
    "1256392800c 1269698400e 1288450800b 1301151600c"]

/-- The history of Antarctica/Casey. -/
def casey : History where
  name := "Antarctica/Casey"
  offsets := [⟨0, 0⟩, ⟨28800, 0⟩, ⟨39600, 0⟩]
  changes := [
    "-31536000b 1255802400c 1267714800b 1319738400c 1329843600b 1477065600c 1520701200b",
    "1538856000c 1552752000b 1570129200c 1583596800b 1601740860c 1615640400b 1633190460c",
    "1647090000b 1664640060c 1678291200b"]

/-- The histories of zones in Asia, Australia and the Pacific, and of one station south of Australia. -/
def asiaPacific : List History :=
  [dubai, kolkata, kathmandu, shanghai, hongKong, tokyo, seoul, perth, adelaide, sydney,
    lordHowe, auckland, apia, kiritimati, beirut, chatham, kamchatka, casey]

end DatePattern.History
