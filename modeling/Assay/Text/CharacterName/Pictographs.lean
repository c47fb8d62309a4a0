/-! # Names of characters: pictographs

Notations, pictographs and what stands behind them.
-/

namespace Assay.Text.CharacterName

def pictographsLines : List String :=
  ["^18800&TANGUT COMPONENT-001*COMPONENT-002*COMPONENT-003*COMPONENT-004*COMPONENT-005",
   "*COMPONENT-006*COMPONENT-007*COMPONENT-008*COMPONENT-009*COMPONENT-010*COMPONENT-011",
   "*COMPONENT-012*COMPONENT-013*COMPONENT-014*COMPONENT-015*COMPONENT-016*COMPONENT-017",
   "*COMPONENT-018*COMPONENT-019*COMPONENT-020*COMPONENT-021*COMPONENT-022*COMPONENT-023",
   "*COMPONENT-024*COMPONENT-025*COMPONENT-026*COMPONENT-027*COMPONENT-028*COMPONENT-029",
   "*COMPONENT-030*COMPONENT-031*COMPONENT-032*COMPONENT-033*COMPONENT-034*COMPONENT-035",
   "*COMPONENT-036*COMPONENT-037*COMPONENT-038*COMPONENT-039*COMPONENT-040*COMPONENT-041",
   "*COMPONENT-042*COMPONENT-043*COMPONENT-044*COMPONENT-045*COMPONENT-046*COMPONENT-047",
   "*COMPONENT-048*COMPONENT-049*COMPONENT-050*COMPONENT-051*COMPONENT-052*COMPONENT-053",
   "*COMPONENT-054*COMPONENT-055*COMPONENT-056*COMPONENT-057*COMPONENT-058*COMPONENT-059",
   "*COMPONENT-060*COMPONENT-061*COMPONENT-062*COMPONENT-063*COMPONENT-064*COMPONENT-065",
   "*COMPONENT-066*COMPONENT-067*COMPONENT-068*COMPONENT-069*COMPONENT-070*COMPONENT-071",
   "*COMPONENT-072*COMPONENT-073*COMPONENT-074*COMPONENT-075*COMPONENT-076*COMPONENT-077",
   "*COMPONENT-078*COMPONENT-079*COMPONENT-080*COMPONENT-081*COMPONENT-082*COMPONENT-083",
   "*COMPONENT-084*COMPONENT-085*COMPONENT-086*COMPONENT-087*COMPONENT-088*COMPONENT-089",
   "*COMPONENT-090*COMPONENT-091*COMPONENT-092*COMPONENT-093*COMPONENT-094*COMPONENT-095",
   "*COMPONENT-096*COMPONENT-097*COMPONENT-098*COMPONENT-099*COMPONENT-100*COMPONENT-101",
   "*COMPONENT-102*COMPONENT-103*COMPONENT-104*COMPONENT-105*COMPONENT-106*COMPONENT-107",
   "*COMPONENT-108*COMPONENT-109*COMPONENT-110*COMPONENT-111*COMPONENT-112*COMPONENT-113",
   "*COMPONENT-114*COMPONENT-115*COMPONENT-116*COMPONENT-117*COMPONENT-118*COMPONENT-119",
   "*COMPONENT-120*COMPONENT-121*COMPONENT-122*COMPONENT-123*COMPONENT-124*COMPONENT-125",
   "*COMPONENT-126*COMPONENT-127*COMPONENT-128*COMPONENT-129*COMPONENT-130*COMPONENT-131",
   "*COMPONENT-132*COMPONENT-133*COMPONENT-134*COMPONENT-135*COMPONENT-136*COMPONENT-137",
   "*COMPONENT-138*COMPONENT-139*COMPONENT-140*COMPONENT-141*COMPONENT-142*COMPONENT-143",
   "*COMPONENT-144*COMPONENT-145*COMPONENT-146*COMPONENT-147*COMPONENT-148*COMPONENT-149",
   "*COMPONENT-150*COMPONENT-151*COMPONENT-152*COMPONENT-153*COMPONENT-154*COMPONENT-155",
   "*COMPONENT-156*COMPONENT-157*COMPONENT-158*COMPONENT-159*COMPONENT-160*COMPONENT-161",
   "*COMPONENT-162*COMPONENT-163*COMPONENT-164*COMPONENT-165*COMPONENT-166*COMPONENT-167",
   "*COMPONENT-168*COMPONENT-169*COMPONENT-170*COMPONENT-171*COMPONENT-172*COMPONENT-173",
   "*COMPONENT-174*COMPONENT-175*COMPONENT-176*COMPONENT-177*COMPONENT-178*COMPONENT-179",
   "*COMPONENT-180*COMPONENT-181*COMPONENT-182*COMPONENT-183*COMPONENT-184*COMPONENT-185",
   "*COMPONENT-186*COMPONENT-187*COMPONENT-188*COMPONENT-189*COMPONENT-190*COMPONENT-191",
   "*COMPONENT-192*COMPONENT-193*COMPONENT-194*COMPONENT-195*COMPONENT-196*COMPONENT-197",
   "*COMPONENT-198*COMPONENT-199*COMPONENT-200*COMPONENT-201*COMPONENT-202*COMPONENT-203",
   "*COMPONENT-204*COMPONENT-205*COMPONENT-206*COMPONENT-207*COMPONENT-208*COMPONENT-209",
   "*COMPONENT-210*COMPONENT-211*COMPONENT-212*COMPONENT-213*COMPONENT-214*COMPONENT-215",
   "*COMPONENT-216*COMPONENT-217*COMPONENT-218*COMPONENT-219*COMPONENT-220*COMPONENT-221",
   "*COMPONENT-222*COMPONENT-223*COMPONENT-224*COMPONENT-225*COMPONENT-226*COMPONENT-227",
   "*COMPONENT-228*COMPONENT-229*COMPONENT-230*COMPONENT-231*COMPONENT-232*COMPONENT-233",
   "*COMPONENT-234*COMPONENT-235*COMPONENT-236*COMPONENT-237*COMPONENT-238*COMPONENT-239",
   "*COMPONENT-240*COMPONENT-241*COMPONENT-242*COMPONENT-243*COMPONENT-244*COMPONENT-245",
   "*COMPONENT-246*COMPONENT-247*COMPONENT-248*COMPONENT-249*COMPONENT-250*COMPONENT-251",
   "*COMPONENT-252*COMPONENT-253*COMPONENT-254*COMPONENT-255*COMPONENT-256*COMPONENT-257",
   "*COMPONENT-258*COMPONENT-259*COMPONENT-260*COMPONENT-261*COMPONENT-262*COMPONENT-263",
   "*COMPONENT-264*COMPONENT-265*COMPONENT-266*COMPONENT-267*COMPONENT-268*COMPONENT-269",
   "*COMPONENT-270*COMPONENT-271*COMPONENT-272*COMPONENT-273*COMPONENT-274*COMPONENT-275",
   "*COMPONENT-276*COMPONENT-277*COMPONENT-278*COMPONENT-279*COMPONENT-280*COMPONENT-281",
   "*COMPONENT-282*COMPONENT-283*COMPONENT-284*COMPONENT-285*COMPONENT-286*COMPONENT-287",
   "*COMPONENT-288*COMPONENT-289*COMPONENT-290*COMPONENT-291*COMPONENT-292*COMPONENT-293",
   "*COMPONENT-294*COMPONENT-295*COMPONENT-296*COMPONENT-297*COMPONENT-298*COMPONENT-299",
   "*COMPONENT-300*COMPONENT-301*COMPONENT-302*COMPONENT-303*COMPONENT-304*COMPONENT-305",
   "*COMPONENT-306*COMPONENT-307*COMPONENT-308*COMPONENT-309*COMPONENT-310*COMPONENT-311",
   "*COMPONENT-312*COMPONENT-313*COMPONENT-314*COMPONENT-315*COMPONENT-316*COMPONENT-317",
   "*COMPONENT-318*COMPONENT-319*COMPONENT-320*COMPONENT-321*COMPONENT-322*COMPONENT-323",
   "*COMPONENT-324*COMPONENT-325*COMPONENT-326*COMPONENT-327*COMPONENT-328*COMPONENT-329",
   "*COMPONENT-330*COMPONENT-331*COMPONENT-332*COMPONENT-333*COMPONENT-334*COMPONENT-335",
   "*COMPONENT-336*COMPONENT-337*COMPONENT-338*COMPONENT-339*COMPONENT-340*COMPONENT-341",
   "*COMPONENT-342*COMPONENT-343*COMPONENT-344*COMPONENT-345*COMPONENT-346*COMPONENT-347",
   "*COMPONENT-348*COMPONENT-349*COMPONENT-350*COMPONENT-351*COMPONENT-352*COMPONENT-353",
   "*COMPONENT-354*COMPONENT-355*COMPONENT-356*COMPONENT-357*COMPONENT-358*COMPONENT-359",
   "*COMPONENT-360*COMPONENT-361*COMPONENT-362*COMPONENT-363*COMPONENT-364*COMPONENT-365",
   "*COMPONENT-366*COMPONENT-367*COMPONENT-368*COMPONENT-369*COMPONENT-370*COMPONENT-371",
   "*COMPONENT-372*COMPONENT-373*COMPONENT-374*COMPONENT-375*COMPONENT-376*COMPONENT-377",
   "*COMPONENT-378*COMPONENT-379*COMPONENT-380*COMPONENT-381*COMPONENT-382*COMPONENT-383",
   "*COMPONENT-384*COMPONENT-385*COMPONENT-386*COMPONENT-387*COMPONENT-388*COMPONENT-389",
   "*COMPONENT-390*COMPONENT-391*COMPONENT-392*COMPONENT-393*COMPONENT-394*COMPONENT-395",
   "*COMPONENT-396*COMPONENT-397*COMPONENT-398*COMPONENT-399*COMPONENT-400*COMPONENT-401",
   "*COMPONENT-402*COMPONENT-403*COMPONENT-404*COMPONENT-405*COMPONENT-406*COMPONENT-407",
   "*COMPONENT-408*COMPONENT-409*COMPONENT-410*COMPONENT-411*COMPONENT-412*COMPONENT-413",
   "*COMPONENT-414*COMPONENT-415*COMPONENT-416*COMPONENT-417*COMPONENT-418*COMPONENT-419",
   "*COMPONENT-420*COMPONENT-421*COMPONENT-422*COMPONENT-423*COMPONENT-424*COMPONENT-425",
   "*COMPONENT-426*COMPONENT-427*COMPONENT-428*COMPONENT-429*COMPONENT-430*COMPONENT-431",
   "*COMPONENT-432*COMPONENT-433*COMPONENT-434*COMPONENT-435*COMPONENT-436*COMPONENT-437",
   "*COMPONENT-438*COMPONENT-439*COMPONENT-440*COMPONENT-441*COMPONENT-442*COMPONENT-443",
   "*COMPONENT-444*COMPONENT-445*COMPONENT-446*COMPONENT-447*COMPONENT-448*COMPONENT-449",
   "*COMPONENT-450*COMPONENT-451*COMPONENT-452*COMPONENT-453*COMPONENT-454*COMPONENT-455",
   "*COMPONENT-456*COMPONENT-457*COMPONENT-458*COMPONENT-459*COMPONENT-460*COMPONENT-461",
   "*COMPONENT-462*COMPONENT-463*COMPONENT-464*COMPONENT-465*COMPONENT-466*COMPONENT-467",
   "*COMPONENT-468*COMPONENT-469*COMPONENT-470*COMPONENT-471*COMPONENT-472*COMPONENT-473",
   "*COMPONENT-474*COMPONENT-475*COMPONENT-476*COMPONENT-477*COMPONENT-478*COMPONENT-479",
   "*COMPONENT-480*COMPONENT-481*COMPONENT-482*COMPONENT-483*COMPONENT-484*COMPONENT-485",
   "*COMPONENT-486*COMPONENT-487*COMPONENT-488*COMPONENT-489*COMPONENT-490*COMPONENT-491",
   "*COMPONENT-492*COMPONENT-493*COMPONENT-494*COMPONENT-495*COMPONENT-496*COMPONENT-497",
   "*COMPONENT-498*COMPONENT-499*COMPONENT-500*COMPONENT-501*COMPONENT-502*COMPONENT-503",
   "*COMPONENT-504*COMPONENT-505*COMPONENT-506*COMPONENT-507*COMPONENT-508*COMPONENT-509",
   "*COMPONENT-510*COMPONENT-511*COMPONENT-512*COMPONENT-513*COMPONENT-514*COMPONENT-515",
   "*COMPONENT-516*COMPONENT-517*COMPONENT-518*COMPONENT-519*COMPONENT-520*COMPONENT-521",
   "*COMPONENT-522*COMPONENT-523*COMPONENT-524*COMPONENT-525*COMPONENT-526*COMPONENT-527",
   "*COMPONENT-528*COMPONENT-529*COMPONENT-530*COMPONENT-531*COMPONENT-532*COMPONENT-533",
   "*COMPONENT-534*COMPONENT-535*COMPONENT-536*COMPONENT-537*COMPONENT-538*COMPONENT-539",
   "*COMPONENT-540*COMPONENT-541*COMPONENT-542*COMPONENT-543*COMPONENT-544*COMPONENT-545",
   "*COMPONENT-546*COMPONENT-547*COMPONENT-548*COMPONENT-549*COMPONENT-550*COMPONENT-551",
   "*COMPONENT-552*COMPONENT-553*COMPONENT-554*COMPONENT-555*COMPONENT-556*COMPONENT-557",
   "*COMPONENT-558*COMPONENT-559*COMPONENT-560*COMPONENT-561*COMPONENT-562*COMPONENT-563",
   "*COMPONENT-564*COMPONENT-565*COMPONENT-566*COMPONENT-567*COMPONENT-568*COMPONENT-569",
   "*COMPONENT-570*COMPONENT-571*COMPONENT-572*COMPONENT-573*COMPONENT-574*COMPONENT-575",
   "*COMPONENT-576*COMPONENT-577*COMPONENT-578*COMPONENT-579*COMPONENT-580*COMPONENT-581",
   "*COMPONENT-582*COMPONENT-583*COMPONENT-584*COMPONENT-585*COMPONENT-586*COMPONENT-587",
   "*COMPONENT-588*COMPONENT-589*COMPONENT-590*COMPONENT-591*COMPONENT-592*COMPONENT-593",
   "*COMPONENT-594*COMPONENT-595*COMPONENT-596*COMPONENT-597*COMPONENT-598*COMPONENT-599",
   "*COMPONENT-600*COMPONENT-601*COMPONENT-602*COMPONENT-603*COMPONENT-604*COMPONENT-605",
   "*COMPONENT-606*COMPONENT-607*COMPONENT-608*COMPONENT-609*COMPONENT-610*COMPONENT-611",
   "*COMPONENT-612*COMPONENT-613*COMPONENT-614*COMPONENT-615*COMPONENT-616*COMPONENT-617",
   "*COMPONENT-618*COMPONENT-619*COMPONENT-620*COMPONENT-621*COMPONENT-622*COMPONENT-623",
   "*COMPONENT-624*COMPONENT-625*COMPONENT-626*COMPONENT-627*COMPONENT-628*COMPONENT-629",
   "*COMPONENT-630*COMPONENT-631*COMPONENT-632*COMPONENT-633*COMPONENT-634*COMPONENT-635",
   "*COMPONENT-636*COMPONENT-637*COMPONENT-638*COMPONENT-639*COMPONENT-640*COMPONENT-641",
   "*COMPONENT-642*COMPONENT-643*COMPONENT-644*COMPONENT-645*COMPONENT-646*COMPONENT-647",
   "*COMPONENT-648*COMPONENT-649*COMPONENT-650*COMPONENT-651*COMPONENT-652*COMPONENT-653",
   "*COMPONENT-654*COMPONENT-655*COMPONENT-656*COMPONENT-657*COMPONENT-658*COMPONENT-659",
   "*COMPONENT-660*COMPONENT-661*COMPONENT-662*COMPONENT-663*COMPONENT-664*COMPONENT-665",
   "*COMPONENT-666*COMPONENT-667*COMPONENT-668*COMPONENT-669*COMPONENT-670*COMPONENT-671",
   "*COMPONENT-672*COMPONENT-673*COMPONENT-674*COMPONENT-675*COMPONENT-676*COMPONENT-677",
   "*COMPONENT-678*COMPONENT-679*COMPONENT-680*COMPONENT-681*COMPONENT-682*COMPONENT-683",
   "*COMPONENT-684*COMPONENT-685*COMPONENT-686*COMPONENT-687*COMPONENT-688*COMPONENT-689",
   "*COMPONENT-690*COMPONENT-691*COMPONENT-692*COMPONENT-693*COMPONENT-694*COMPONENT-695",
   "*COMPONENT-696*COMPONENT-697*COMPONENT-698*COMPONENT-699*COMPONENT-700*COMPONENT-701",
   "*COMPONENT-702*COMPONENT-703*COMPONENT-704*COMPONENT-705*COMPONENT-706*COMPONENT-707",
   "*COMPONENT-708*COMPONENT-709*COMPONENT-710*COMPONENT-711*COMPONENT-712*COMPONENT-713",
   "*COMPONENT-714*COMPONENT-715*COMPONENT-716*COMPONENT-717*COMPONENT-718*COMPONENT-719",
   "*COMPONENT-720*COMPONENT-721*COMPONENT-722*COMPONENT-723*COMPONENT-724*COMPONENT-725",
   "*COMPONENT-726*COMPONENT-727*COMPONENT-728*COMPONENT-729*COMPONENT-730*COMPONENT-731",
   "*COMPONENT-732*COMPONENT-733*COMPONENT-734*COMPONENT-735*COMPONENT-736*COMPONENT-737",
   "*COMPONENT-738*COMPONENT-739*COMPONENT-740*COMPONENT-741*COMPONENT-742*COMPONENT-743",
   "*COMPONENT-744*COMPONENT-745*COMPONENT-746*COMPONENT-747*COMPONENT-748*COMPONENT-749",
   "*COMPONENT-750*COMPONENT-751*COMPONENT-752*COMPONENT-753*COMPONENT-754*COMPONENT-755",
   "*COMPONENT-756*COMPONENT-757*COMPONENT-758*COMPONENT-759*COMPONENT-760*COMPONENT-761",
   "*COMPONENT-762*COMPONENT-763*COMPONENT-764*COMPONENT-765*COMPONENT-766*COMPONENT-767",
   "*COMPONENT-768&KHITANustgCHARACTER-18B00,CHARACTER-18B01,CHARACTER-18B02,CHARACTER-18B03",
   ",CHARACTER-18B04,CHARACTER-18B05,CHARACTER-18B06,CHARACTER-18B07,CHARACTER-18B08",
   ",CHARACTER-18B09,CHARACTER-18B0A,CHARACTER-18B0B,CHARACTER-18B0C,CHARACTER-18B0D",
   ",CHARACTER-18B0E,CHARACTER-18B0F,CHARACTER-18B10,CHARACTER-18B11,CHARACTER-18B12",
   ",CHARACTER-18B13,CHARACTER-18B14,CHARACTER-18B15,CHARACTER-18B16,CHARACTER-18B17",
   ",CHARACTER-18B18,CHARACTER-18B19,CHARACTER-18B1A,CHARACTER-18B1B,CHARACTER-18B1C",
   ",CHARACTER-18B1D,CHARACTER-18B1E,CHARACTER-18B1F,CHARACTER-18B20,CHARACTER-18B21",
   ",CHARACTER-18B22,CHARACTER-18B23,CHARACTER-18B24,CHARACTER-18B25,CHARACTER-18B26",
   ",CHARACTER-18B27,CHARACTER-18B28,CHARACTER-18B29,CHARACTER-18B2A,CHARACTER-18B2B",
   ",CHARACTER-18B2C,CHARACTER-18B2D,CHARACTER-18B2E,CHARACTER-18B2F,CHARACTER-18B30",
   ",CHARACTER-18B31,CHARACTER-18B32,CHARACTER-18B33,CHARACTER-18B34,CHARACTER-18B35",
   ",CHARACTER-18B36,CHARACTER-18B37,CHARACTER-18B38,CHARACTER-18B39,CHARACTER-18B3A",
   ",CHARACTER-18B3B,CHARACTER-18B3C,CHARACTER-18B3D,CHARACTER-18B3E,CHARACTER-18B3F",
   ",CHARACTER-18B40,CHARACTER-18B41,CHARACTER-18B42,CHARACTER-18B43,CHARACTER-18B44",
   ",CHARACTER-18B45,CHARACTER-18B46,CHARACTER-18B47,CHARACTER-18B48,CHARACTER-18B49",
   ",CHARACTER-18B4A,CHARACTER-18B4B,CHARACTER-18B4C,CHARACTER-18B4D,CHARACTER-18B4E",
   ",CHARACTER-18B4F,CHARACTER-18B50,CHARACTER-18B51,CHARACTER-18B52,CHARACTER-18B53",
   ",CHARACTER-18B54,CHARACTER-18B55,CHARACTER-18B56,CHARACTER-18B57,CHARACTER-18B58",
   ",CHARACTER-18B59,CHARACTER-18B5A,CHARACTER-18B5B,CHARACTER-18B5C,CHARACTER-18B5D",
   ",CHARACTER-18B5E,CHARACTER-18B5F,CHARACTER-18B60,CHARACTER-18B61,CHARACTER-18B62",
   ",CHARACTER-18B63,CHARACTER-18B64,CHARACTER-18B65,CHARACTER-18B66,CHARACTER-18B67",
   ",CHARACTER-18B68,CHARACTER-18B69,CHARACTER-18B6A,CHARACTER-18B6B,CHARACTER-18B6C",
   ",CHARACTER-18B6D,CHARACTER-18B6E,CHARACTER-18B6F,CHARACTER-18B70,CHARACTER-18B71",
   ",CHARACTER-18B72,CHARACTER-18B73,CHARACTER-18B74,CHARACTER-18B75,CHARACTER-18B76",
   ",CHARACTER-18B77,CHARACTER-18B78,CHARACTER-18B79,CHARACTER-18B7A,CHARACTER-18B7B",
   ",CHARACTER-18B7C,CHARACTER-18B7D,CHARACTER-18B7E,CHARACTER-18B7F,CHARACTER-18B80",
   ",CHARACTER-18B81,CHARACTER-18B82,CHARACTER-18B83,CHARACTER-18B84,CHARACTER-18B85",
   ",CHARACTER-18B86,CHARACTER-18B87,CHARACTER-18B88,CHARACTER-18B89,CHARACTER-18B8A",
   ",CHARACTER-18B8B,CHARACTER-18B8C,CHARACTER-18B8D,CHARACTER-18B8E,CHARACTER-18B8F",
   ",CHARACTER-18B90,CHARACTER-18B91,CHARACTER-18B92,CHARACTER-18B93,CHARACTER-18B94",
   ",CHARACTER-18B95,CHARACTER-18B96,CHARACTER-18B97,CHARACTER-18B98,CHARACTER-18B99",
   ",CHARACTER-18B9A,CHARACTER-18B9B,CHARACTER-18B9C,CHARACTER-18B9D,CHARACTER-18B9E",
   ",CHARACTER-18B9F,CHARACTER-18BA0,CHARACTER-18BA1,CHARACTER-18BA2,CHARACTER-18BA3",
   ",CHARACTER-18BA4,CHARACTER-18BA5,CHARACTER-18BA6,CHARACTER-18BA7,CHARACTER-18BA8",
   ",CHARACTER-18BA9,CHARACTER-18BAA,CHARACTER-18BAB,CHARACTER-18BAC,CHARACTER-18BAD",
   ",CHARACTER-18BAE,CHARACTER-18BAF,CHARACTER-18BB0,CHARACTER-18BB1,CHARACTER-18BB2",
   ",CHARACTER-18BB3,CHARACTER-18BB4,CHARACTER-18BB5,CHARACTER-18BB6,CHARACTER-18BB7",
   ",CHARACTER-18BB8,CHARACTER-18BB9,CHARACTER-18BBA,CHARACTER-18BBB,CHARACTER-18BBC",
   ",CHARACTER-18BBD,CHARACTER-18BBE,CHARACTER-18BBF,CHARACTER-18BC0,CHARACTER-18BC1",
   ",CHARACTER-18BC2,CHARACTER-18BC3,CHARACTER-18BC4,CHARACTER-18BC5,CHARACTER-18BC6",
   ",CHARACTER-18BC7,CHARACTER-18BC8,CHARACTER-18BC9,CHARACTER-18BCA,CHARACTER-18BCB",
   ",CHARACTER-18BCC,CHARACTER-18BCD,CHARACTER-18BCE,CHARACTER-18BCF,CHARACTER-18BD0",
   ",CHARACTER-18BD1,CHARACTER-18BD2,CHARACTER-18BD3,CHARACTER-18BD4,CHARACTER-18BD5",
   ",CHARACTER-18BD6,CHARACTER-18BD7,CHARACTER-18BD8,CHARACTER-18BD9,CHARACTER-18BDA",
   ",CHARACTER-18BDB,CHARACTER-18BDC,CHARACTER-18BDD,CHARACTER-18BDE,CHARACTER-18BDF",
   ",CHARACTER-18BE0,CHARACTER-18BE1,CHARACTER-18BE2,CHARACTER-18BE3,CHARACTER-18BE4",
   ",CHARACTER-18BE5,CHARACTER-18BE6,CHARACTER-18BE7,CHARACTER-18BE8,CHARACTER-18BE9",
   ",CHARACTER-18BEA,CHARACTER-18BEB,CHARACTER-18BEC,CHARACTER-18BED,CHARACTER-18BEE",
   ",CHARACTER-18BEF,CHARACTER-18BF0,CHARACTER-18BF1,CHARACTER-18BF2,CHARACTER-18BF3",
   ",CHARACTER-18BF4,CHARACTER-18BF5,CHARACTER-18BF6,CHARACTER-18BF7,CHARACTER-18BF8",
   ",CHARACTER-18BF9,CHARACTER-18BFA,CHARACTER-18BFB,CHARACTER-18BFC,CHARACTER-18BFD",
   ",CHARACTER-18BFE,CHARACTER-18BFF,CHARACTER-18C00,CHARACTER-18C01,CHARACTER-18C02",
   ",CHARACTER-18C03,CHARACTER-18C04,CHARACTER-18C05,CHARACTER-18C06,CHARACTER-18C07",
   ",CHARACTER-18C08,CHARACTER-18C09,CHARACTER-18C0A,CHARACTER-18C0B,CHARACTER-18C0C",
   ",CHARACTER-18C0D,CHARACTER-18C0E,CHARACTER-18C0F,CHARACTER-18C10,CHARACTER-18C11",
   ",CHARACTER-18C12,CHARACTER-18C13,CHARACTER-18C14,CHARACTER-18C15,CHARACTER-18C16",
   ",CHARACTER-18C17,CHARACTER-18C18,CHARACTER-18C19,CHARACTER-18C1A,CHARACTER-18C1B",
   ",CHARACTER-18C1C,CHARACTER-18C1D,CHARACTER-18C1E,CHARACTER-18C1F,CHARACTER-18C20",
   ",CHARACTER-18C21,CHARACTER-18C22,CHARACTER-18C23,CHARACTER-18C24,CHARACTER-18C25",
   ",CHARACTER-18C26,CHARACTER-18C27,CHARACTER-18C28,CHARACTER-18C29,CHARACTER-18C2A",
   ",CHARACTER-18C2B,CHARACTER-18C2C,CHARACTER-18C2D,CHARACTER-18C2E,CHARACTER-18C2F",
   ",CHARACTER-18C30,CHARACTER-18C31,CHARACTER-18C32,CHARACTER-18C33,CHARACTER-18C34",
   ",CHARACTER-18C35,CHARACTER-18C36,CHARACTER-18C37,CHARACTER-18C38,CHARACTER-18C39",
   ",CHARACTER-18C3A,CHARACTER-18C3B,CHARACTER-18C3C,CHARACTER-18C3D,CHARACTER-18C3E",
   ",CHARACTER-18C3F,CHARACTER-18C40,CHARACTER-18C41,CHARACTER-18C42,CHARACTER-18C43",
   ",CHARACTER-18C44,CHARACTER-18C45,CHARACTER-18C46,CHARACTER-18C47,CHARACTER-18C48",
   ",CHARACTER-18C49,CHARACTER-18C4A,CHARACTER-18C4B,CHARACTER-18C4C,CHARACTER-18C4D",
   ",CHARACTER-18C4E,CHARACTER-18C4F,CHARACTER-18C50,CHARACTER-18C51,CHARACTER-18C52",
   ",CHARACTER-18C53,CHARACTER-18C54,CHARACTER-18C55,CHARACTER-18C56,CHARACTER-18C57",
   ",CHARACTER-18C58,CHARACTER-18C59,CHARACTER-18C5A,CHARACTER-18C5B,CHARACTER-18C5C",
   ",CHARACTER-18C5D,CHARACTER-18C5E,CHARACTER-18C5F,CHARACTER-18C60,CHARACTER-18C61",
   ",CHARACTER-18C62,CHARACTER-18C63,CHARACTER-18C64,CHARACTER-18C65,CHARACTER-18C66",
   ",CHARACTER-18C67,CHARACTER-18C68,CHARACTER-18C69,CHARACTER-18C6A,CHARACTER-18C6B",
   ",CHARACTER-18C6C,CHARACTER-18C6D,CHARACTER-18C6E,CHARACTER-18C6F,CHARACTER-18C70",
   ",CHARACTER-18C71,CHARACTER-18C72,CHARACTER-18C73,CHARACTER-18C74,CHARACTER-18C75",
   ",CHARACTER-18C76,CHARACTER-18C77,CHARACTER-18C78,CHARACTER-18C79,CHARACTER-18C7A",
   ",CHARACTER-18C7B,CHARACTER-18C7C,CHARACTER-18C7D,CHARACTER-18C7E,CHARACTER-18C7F",
   ",CHARACTER-18C80,CHARACTER-18C81,CHARACTER-18C82,CHARACTER-18C83,CHARACTER-18C84",
   ",CHARACTER-18C85,CHARACTER-18C86,CHARACTER-18C87,CHARACTER-18C88,CHARACTER-18C89",
   ",CHARACTER-18C8A,CHARACTER-18C8B,CHARACTER-18C8C,CHARACTER-18C8D,CHARACTER-18C8E",
   ",CHARACTER-18C8F,CHARACTER-18C90,CHARACTER-18C91,CHARACTER-18C92,CHARACTER-18C93",
   ",CHARACTER-18C94,CHARACTER-18C95,CHARACTER-18C96,CHARACTER-18C97,CHARACTER-18C98",
   ",CHARACTER-18C99,CHARACTER-18C9A,CHARACTER-18C9B,CHARACTER-18C9C,CHARACTER-18C9D",
   ",CHARACTER-18C9E,CHARACTER-18C9F,CHARACTER-18CA0,CHARACTER-18CA1,CHARACTER-18CA2",
   ",CHARACTER-18CA3,CHARACTER-18CA4,CHARACTER-18CA5,CHARACTER-18CA6,CHARACTER-18CA7",
   ",CHARACTER-18CA8,CHARACTER-18CA9,CHARACTER-18CAA,CHARACTER-18CAB,CHARACTER-18CAC",
   ",CHARACTER-18CAD,CHARACTER-18CAE,CHARACTER-18CAF,CHARACTER-18CB0,CHARACTER-18CB1",
   ",CHARACTER-18CB2,CHARACTER-18CB3,CHARACTER-18CB4,CHARACTER-18CB5,CHARACTER-18CB6",
   ",CHARACTER-18CB7,CHARACTER-18CB8,CHARACTER-18CB9,CHARACTER-18CBA,CHARACTER-18CBB",
   ",CHARACTER-18CBC,CHARACTER-18CBD,CHARACTER-18CBE,CHARACTER-18CBF,CHARACTER-18CC0",
   ",CHARACTER-18CC1,CHARACTER-18CC2,CHARACTER-18CC3,CHARACTER-18CC4,CHARACTER-18CC5",
   ",CHARACTER-18CC6,CHARACTER-18CC7,CHARACTER-18CC8,CHARACTER-18CC9,CHARACTER-18CCA",
   ",CHARACTER-18CCB,CHARACTER-18CCC,CHARACTER-18CCD,CHARACTER-18CCE,CHARACTER-18CCF",
   ",CHARACTER-18CD0,CHARACTER-18CD1,CHARACTER-18CD2,CHARACTER-18CD3,CHARACTER-18CD4",
   ",CHARACTER-18CD5^1AFF0&llmqMINNANxg,xh,TONE-4,xi^1AFF5,TONE-7,TONE-8,NASALIZED TONE-1:xg:xh",
   ":TONE-4:xi^1AFFD:TONE-7:TONE-8^1B000+bbE&jtmqbbYE&HENTAIGANAmqA-1+A-2+A-3+A-WO+I-1+I-2+I-3+I-4",
   "+U-1+U-2+U-3+U-4+U-5+E-2+E-3+E-4+E-5+E-6+O-1+O-2+O-3+KA-1+KA-2+KA-3+KA-4+KA-5+KA-6+KA-7+KA-8",
   "+KA-9+KA-10+KA-11+KA-KE+KI-1+KI-2+KI-3+KI-4+KI-5+KI-6+KI-7+KI-8+KU-1+KU-2+KU-3+KU-4+KU-5+KU-6",
   "+KU-7+KE-1+KE-2+KE-3+KE-4+KE-5+KE-6+KO-1+KO-2+KO-3+KO-KI+SA-1+SA-2+SA-3+SA-4+SA-5+SA-6+SA-7",
   "+SA-8+SI-1+SI-2+SI-3+SI-4+SI-5+SI-6+SU-1+SU-2+SU-3+SU-4+SU-5+SU-6+SU-7+SU-8+SE-1+SE-2+SE-3",
   "+SE-4+SE-5+SO-1+SO-2+SO-3+SO-4+SO-5+SO-6+SO-7+TA-1+TA-2+TA-3+TA-4+TI-1+TI-2+TI-3+TI-4+TI-5",
   "+TI-6+TI-7+TU-1+TU-2+TU-3+TU-4+TU-TO+TE-1+TE-2+TE-3+TE-4+TE-5+TE-6+TE-7+TE-8+TE-9+TO-1+TO-2",
   "+TO-3+TO-4+TO-5+TO-6+TO-RA+NA-1+NA-2+NA-3+NA-4+NA-5+NA-6+NA-7+NA-8+NA-9+NI-1+NI-2+NI-3+NI-4",
   "+NI-5+NI-6+NI-7+NI-TE+NU-1+NU-2+NU-3+NE-1+NE-2+NE-3+NE-4+NE-5+NE-6+NE-KO+NO-1+NO-2+NO-3+NO-4",
   "+NO-5+HA-1+HA-2+HA-3+HA-4+HA-5+HA-6+HA-7+HA-8+HA-9+HA-10+HA-11+HI-1+HI-2+HI-3+HI-4+HI-5+HI-6",
   "+HI-7+HU-1+HU-2+HU-3+HE-1+HE-2+HE-3+HE-4+HE-5+HE-6+HE-7+HO-1+HO-2+HO-3+HO-4+HO-5+HO-6+HO-7",
   "+HO-8+MA-1+MA-2+MA-3+MA-4+MA-5+MA-6+MA-7+MI-1+MI-2+MI-3+MI-4+MI-5+MI-6+MI-7+MU-1+MU-2+MU-3",
   "+MU-4+ME-1+ME-2+ME-MA+MO-1+MO-2+MO-3+MO-4+MO-5+MO-6+YA-1+YA-2+YA-3+YA-4+YA-5+YA-YO+YU-1+YU-2",
   "+YU-3+YU-4+YO-1+YO-2+YO-3+YO-4+YO-5+YO-6+RA-1+RA-2+RA-3+RA-4+RI-1+RI-2+RI-3+RI-4+RI-5+RI-6",
   "+RI-7+RU-1+RU-2+RU-3+RU-4+RU-5+RU-6+RE-1+RE-2+RE-3+RE-4+RO-1+RO-2+RO-3+RO-4+RO-5+RO-6+WA-1",
   "+WA-2+WA-3+WA-4+WA-5+WI-1+WI-2+WI-3+WI-4+WI-5+WE-1+WE-2+WE-3+WE-4+WO-1+WO-2+WO-3+WO-4+WO-5",
   "+WO-6+WO-7+N-MU-MO-1+N-MU-MO-2&jtmqbbWU&llmqbbYI,YE,WU^1B150&jtmqusWI,WE,WO^1B164&llmqusWI,WE",
   ",WO,N^1B170&NUSHU CHARACTER-1B170*CHARACTER-1B171*CHARACTER-1B172*CHARACTER-1B173",
   "*CHARACTER-1B174*CHARACTER-1B175*CHARACTER-1B176*CHARACTER-1B177*CHARACTER-1B178",
   "*CHARACTER-1B179*CHARACTER-1B17A*CHARACTER-1B17B*CHARACTER-1B17C*CHARACTER-1B17D",
   "*CHARACTER-1B17E*CHARACTER-1B17F*CHARACTER-1B180*CHARACTER-1B181*CHARACTER-1B182",
   "*CHARACTER-1B183*CHARACTER-1B184*CHARACTER-1B185*CHARACTER-1B186*CHARACTER-1B187",
   "*CHARACTER-1B188*CHARACTER-1B189*CHARACTER-1B18A*CHARACTER-1B18B*CHARACTER-1B18C",
   "*CHARACTER-1B18D*CHARACTER-1B18E*CHARACTER-1B18F*CHARACTER-1B190*CHARACTER-1B191",
   "*CHARACTER-1B192*CHARACTER-1B193*CHARACTER-1B194*CHARACTER-1B195*CHARACTER-1B196",
   "*CHARACTER-1B197*CHARACTER-1B198*CHARACTER-1B199*CHARACTER-1B19A*CHARACTER-1B19B",
   "*CHARACTER-1B19C*CHARACTER-1B19D*CHARACTER-1B19E*CHARACTER-1B19F*CHARACTER-1B1A0",
   "*CHARACTER-1B1A1*CHARACTER-1B1A2*CHARACTER-1B1A3*CHARACTER-1B1A4*CHARACTER-1B1A5",
   "*CHARACTER-1B1A6*CHARACTER-1B1A7*CHARACTER-1B1A8*CHARACTER-1B1A9*CHARACTER-1B1AA",
   "*CHARACTER-1B1AB*CHARACTER-1B1AC*CHARACTER-1B1AD*CHARACTER-1B1AE*CHARACTER-1B1AF",
   "*CHARACTER-1B1B0*CHARACTER-1B1B1*CHARACTER-1B1B2*CHARACTER-1B1B3*CHARACTER-1B1B4",
   "*CHARACTER-1B1B5*CHARACTER-1B1B6*CHARACTER-1B1B7*CHARACTER-1B1B8*CHARACTER-1B1B9",
   "*CHARACTER-1B1BA*CHARACTER-1B1BB*CHARACTER-1B1BC*CHARACTER-1B1BD*CHARACTER-1B1BE",
   "*CHARACTER-1B1BF*CHARACTER-1B1C0*CHARACTER-1B1C1*CHARACTER-1B1C2*CHARACTER-1B1C3",
   "*CHARACTER-1B1C4*CHARACTER-1B1C5*CHARACTER-1B1C6*CHARACTER-1B1C7*CHARACTER-1B1C8",
   "*CHARACTER-1B1C9*CHARACTER-1B1CA*CHARACTER-1B1CB*CHARACTER-1B1CC*CHARACTER-1B1CD",
   "*CHARACTER-1B1CE*CHARACTER-1B1CF*CHARACTER-1B1D0*CHARACTER-1B1D1*CHARACTER-1B1D2",
   "*CHARACTER-1B1D3*CHARACTER-1B1D4*CHARACTER-1B1D5*CHARACTER-1B1D6*CHARACTER-1B1D7",
   "*CHARACTER-1B1D8*CHARACTER-1B1D9*CHARACTER-1B1DA*CHARACTER-1B1DB*CHARACTER-1B1DC",
   "*CHARACTER-1B1DD*CHARACTER-1B1DE*CHARACTER-1B1DF*CHARACTER-1B1E0*CHARACTER-1B1E1",
   "*CHARACTER-1B1E2*CHARACTER-1B1E3*CHARACTER-1B1E4*CHARACTER-1B1E5*CHARACTER-1B1E6",
   "*CHARACTER-1B1E7*CHARACTER-1B1E8*CHARACTER-1B1E9*CHARACTER-1B1EA*CHARACTER-1B1EB",
   "*CHARACTER-1B1EC*CHARACTER-1B1ED*CHARACTER-1B1EE*CHARACTER-1B1EF*CHARACTER-1B1F0",
   "*CHARACTER-1B1F1*CHARACTER-1B1F2*CHARACTER-1B1F3*CHARACTER-1B1F4*CHARACTER-1B1F5",
   "*CHARACTER-1B1F6*CHARACTER-1B1F7*CHARACTER-1B1F8*CHARACTER-1B1F9*CHARACTER-1B1FA",
   "*CHARACTER-1B1FB*CHARACTER-1B1FC*CHARACTER-1B1FD*CHARACTER-1B1FE*CHARACTER-1B1FF",
   "*CHARACTER-1B200*CHARACTER-1B201*CHARACTER-1B202*CHARACTER-1B203*CHARACTER-1B204",
   "*CHARACTER-1B205*CHARACTER-1B206*CHARACTER-1B207*CHARACTER-1B208*CHARACTER-1B209",
   "*CHARACTER-1B20A*CHARACTER-1B20B*CHARACTER-1B20C*CHARACTER-1B20D*CHARACTER-1B20E",
   "*CHARACTER-1B20F*CHARACTER-1B210*CHARACTER-1B211*CHARACTER-1B212*CHARACTER-1B213",
   "*CHARACTER-1B214*CHARACTER-1B215*CHARACTER-1B216*CHARACTER-1B217*CHARACTER-1B218",
   "*CHARACTER-1B219*CHARACTER-1B21A*CHARACTER-1B21B*CHARACTER-1B21C*CHARACTER-1B21D",
   "*CHARACTER-1B21E*CHARACTER-1B21F*CHARACTER-1B220*CHARACTER-1B221*CHARACTER-1B222",
   "*CHARACTER-1B223*CHARACTER-1B224*CHARACTER-1B225*CHARACTER-1B226*CHARACTER-1B227",
   "*CHARACTER-1B228*CHARACTER-1B229*CHARACTER-1B22A*CHARACTER-1B22B*CHARACTER-1B22C",
   "*CHARACTER-1B22D*CHARACTER-1B22E*CHARACTER-1B22F*CHARACTER-1B230*CHARACTER-1B231",
   "*CHARACTER-1B232*CHARACTER-1B233*CHARACTER-1B234*CHARACTER-1B235*CHARACTER-1B236",
   "*CHARACTER-1B237*CHARACTER-1B238*CHARACTER-1B239*CHARACTER-1B23A*CHARACTER-1B23B",
   "*CHARACTER-1B23C*CHARACTER-1B23D*CHARACTER-1B23E*CHARACTER-1B23F*CHARACTER-1B240",
   "*CHARACTER-1B241*CHARACTER-1B242*CHARACTER-1B243*CHARACTER-1B244*CHARACTER-1B245",
   "*CHARACTER-1B246*CHARACTER-1B247*CHARACTER-1B248*CHARACTER-1B249*CHARACTER-1B24A",
   "*CHARACTER-1B24B*CHARACTER-1B24C*CHARACTER-1B24D*CHARACTER-1B24E*CHARACTER-1B24F",
   "*CHARACTER-1B250*CHARACTER-1B251*CHARACTER-1B252*CHARACTER-1B253*CHARACTER-1B254",
   "*CHARACTER-1B255*CHARACTER-1B256*CHARACTER-1B257*CHARACTER-1B258*CHARACTER-1B259",
   "*CHARACTER-1B25A*CHARACTER-1B25B*CHARACTER-1B25C*CHARACTER-1B25D*CHARACTER-1B25E",
   "*CHARACTER-1B25F*CHARACTER-1B260*CHARACTER-1B261*CHARACTER-1B262*CHARACTER-1B263",
   "*CHARACTER-1B264*CHARACTER-1B265*CHARACTER-1B266*CHARACTER-1B267*CHARACTER-1B268",
   "*CHARACTER-1B269*CHARACTER-1B26A*CHARACTER-1B26B*CHARACTER-1B26C*CHARACTER-1B26D",
   "*CHARACTER-1B26E*CHARACTER-1B26F*CHARACTER-1B270*CHARACTER-1B271*CHARACTER-1B272",
   "*CHARACTER-1B273*CHARACTER-1B274*CHARACTER-1B275*CHARACTER-1B276*CHARACTER-1B277",
   "*CHARACTER-1B278*CHARACTER-1B279*CHARACTER-1B27A*CHARACTER-1B27B*CHARACTER-1B27C",
   "*CHARACTER-1B27D*CHARACTER-1B27E*CHARACTER-1B27F*CHARACTER-1B280*CHARACTER-1B281",
   "*CHARACTER-1B282*CHARACTER-1B283*CHARACTER-1B284*CHARACTER-1B285*CHARACTER-1B286",
   "*CHARACTER-1B287*CHARACTER-1B288*CHARACTER-1B289*CHARACTER-1B28A*CHARACTER-1B28B",
   "*CHARACTER-1B28C*CHARACTER-1B28D*CHARACTER-1B28E*CHARACTER-1B28F*CHARACTER-1B290",
   "*CHARACTER-1B291*CHARACTER-1B292*CHARACTER-1B293*CHARACTER-1B294*CHARACTER-1B295",
   "*CHARACTER-1B296*CHARACTER-1B297*CHARACTER-1B298*CHARACTER-1B299*CHARACTER-1B29A",
   "*CHARACTER-1B29B*CHARACTER-1B29C*CHARACTER-1B29D*CHARACTER-1B29E*CHARACTER-1B29F",
   "*CHARACTER-1B2A0*CHARACTER-1B2A1*CHARACTER-1B2A2*CHARACTER-1B2A3*CHARACTER-1B2A4",
   "*CHARACTER-1B2A5*CHARACTER-1B2A6*CHARACTER-1B2A7*CHARACTER-1B2A8*CHARACTER-1B2A9",
   "*CHARACTER-1B2AA*CHARACTER-1B2AB*CHARACTER-1B2AC*CHARACTER-1B2AD*CHARACTER-1B2AE",
   "*CHARACTER-1B2AF*CHARACTER-1B2B0*CHARACTER-1B2B1*CHARACTER-1B2B2*CHARACTER-1B2B3",
   "*CHARACTER-1B2B4*CHARACTER-1B2B5*CHARACTER-1B2B6*CHARACTER-1B2B7*CHARACTER-1B2B8",
   "*CHARACTER-1B2B9*CHARACTER-1B2BA*CHARACTER-1B2BB*CHARACTER-1B2BC*CHARACTER-1B2BD",
   "*CHARACTER-1B2BE*CHARACTER-1B2BF*CHARACTER-1B2C0*CHARACTER-1B2C1*CHARACTER-1B2C2",
   "*CHARACTER-1B2C3*CHARACTER-1B2C4*CHARACTER-1B2C5*CHARACTER-1B2C6*CHARACTER-1B2C7",
   "*CHARACTER-1B2C8*CHARACTER-1B2C9*CHARACTER-1B2CA*CHARACTER-1B2CB*CHARACTER-1B2CC",
   "*CHARACTER-1B2CD*CHARACTER-1B2CE*CHARACTER-1B2CF*CHARACTER-1B2D0*CHARACTER-1B2D1",
   "*CHARACTER-1B2D2*CHARACTER-1B2D3*CHARACTER-1B2D4*CHARACTER-1B2D5*CHARACTER-1B2D6",
   "*CHARACTER-1B2D7*CHARACTER-1B2D8*CHARACTER-1B2D9*CHARACTER-1B2DA*CHARACTER-1B2DB",
   "*CHARACTER-1B2DC*CHARACTER-1B2DD*CHARACTER-1B2DE*CHARACTER-1B2DF*CHARACTER-1B2E0",
   "*CHARACTER-1B2E1*CHARACTER-1B2E2*CHARACTER-1B2E3*CHARACTER-1B2E4*CHARACTER-1B2E5",
   "*CHARACTER-1B2E6*CHARACTER-1B2E7*CHARACTER-1B2E8*CHARACTER-1B2E9*CHARACTER-1B2EA",
   "*CHARACTER-1B2EB*CHARACTER-1B2EC*CHARACTER-1B2ED*CHARACTER-1B2EE*CHARACTER-1B2EF",
   "*CHARACTER-1B2F0*CHARACTER-1B2F1*CHARACTER-1B2F2*CHARACTER-1B2F3*CHARACTER-1B2F4",
   "*CHARACTER-1B2F5*CHARACTER-1B2F6*CHARACTER-1B2F7*CHARACTER-1B2F8*CHARACTER-1B2F9",
   "*CHARACTER-1B2FA*CHARACTER-1B2FB^1BC00&DUPLOYANmqH+X+P+T+F+K+L+B+D+V+G+R+P N+D S+F N+K M+R S",
   "+TH+SLOAN DH+DH+KK+SLOAN J+HL+LH+RH+M+N+J+S+M N+N M+J M+S J+Mzeft+Nzeft+Jzeft:fvkmasad+Szeft",
   ";bx+M S+N S+J S+S S+M N S+N M S+J M S+S J S+J Szeft,N:S+S T:R,P:R+T S,R S+W+WH+W R+S N,M+K R S",
   "+G R S+S K:R+A+SLOAN OW+OA+O+AOU+I+E+IE+ucI+UI+gg+SLOAN EH+ROMANIAN I+SLOANgg+myI+YE+U+EU+XW",
   "+U N+myU+ROMANIAN U+UH+SLOAN U+OOH+OW+OU+yx+WO+WI+WEI+WOW+NASAL U,O,I,A+PERNINar,AM+SLOANgq,ar",
   ",ps+yuM^1BC70*AFFIXmhjwth+MIDjwth+sgjwth+nbypth+MIDypth+jrypth+bith,mkth,TANGENT,wb,Ejv,Ijv",
   ",TANGENTjv^1BC80+jraf,TIGHTaf,ir,myir,ft,dm,mt,yz,yp^1BC90+nbaf,TIGHTaf,ir,myir,ft,dm,mt,yz,yp",
   ",bd^1BC9C*uhOzeei*THICKmqSELECTOR*fxnm*rlCHINOOKifvh&SHORTHAND FORMATmqOVERLAP",
   "+CONTINUING OVERLAP+gaSTEP+yfSTEP^1CF00&ZNAMENNYdvnmGORAZDO NIZKO Slxpsmh,NIZKO Slxpsmh",
   ",TSATApsmh,GORAZDO NIZKOpsmh,NIZKOpsmh,SREDNEpsmh,MALOrdpsmh,rdpsmh,VYSOKOpsmh,MALOrdSlqpsmh",
   ",rdSlqpsmh,VYSOKO Slqpsmh,GORAZDO NIZKO Slxpssg,NIZKO Slxpssg,TSATApssg,GORAZDO NIZKOpssg",
   ",NIZKOpssg,SREDNEpssg,MALOrdpssg,rdpssg,VYSOKOpssg,MALOrdSlqpssg,rdSlqpssg,VYSOKO Slqpssg",
   ",TSATA Slx,MALOrdSlx,STRANNO MALOrd,rdSlx:STRANNO,VYSOKO Slx,MALOrdSTRANNO,GORAZDO VYSOKO,ZELO",
   ",ps,RAVNO,TIKHAYA,BORZAYA,UDARKA,PODVERTKA,LOMKA,KUPNAYA,KACHKA,ZEVOK,SKOBA,RAZSEKA,KRYZHpsmh",
   "^1CF30+TONAL RANGEnmMRACHNO;SVETLO;TRESVETLO+nmZADERZHKA,DEMESTVENNY ZADERZHKA,OTSECHKA",
   ",PODCHASHIE:zeypvj,CHASHKA:POLNAYA,OBLACHKO,SOROCHYA NOZHKA,TOCHKA,DVOETOCHIE+ATTACHINGypOMET",
   "+nmeqOMET,KRYZH+ncTONAL RANGEki*PRIZNAKnxLEVEL-2,LEVEL-3,DIRECTION FLIP,KRYZH,ROG",
   "^1CF50*NEUME KRYUK,TIKHY+PARAKLIT+DVA V CHELNU+KLYUCH+ZANOZHEK+STOPITSA,S OCHKOM+PEREVODKA,oo",
   "+STOPITSAzeSOROCHYA NOZHKA+CHELYUSTKA+PALKA+zt+GOLUBCHIK BORZY,TIKHY,MRACHNY,SVETLY,TRESVETLY",
   "+VRAKHIYA PROSTAYA,MRACHNAYA,vu,TRESVETLAYA,ltPROSTAYA:MRACHNAYA:vu:TRESVETLAYA+fxzt",
   "+sdCHELYUSTKA+DERBITSA+KHAMILO+CHASHKA+PODCHASHIE+SKAMEYTSA MRACHNAYA,vu,TRESVETLAYA,TIKHAYA",
   "+DEMESTVENNY KLYUCH+SKAMEYTSAltvu,KLYUCHENEPOSTOYANNAYA,ltTIKHAYA,DVOECHELNAYA PROSTAYA:vu:oo",
   ":lt+SLOZHITIE,Szu,ZAKRYTOE,Slx+KRYZH+ROG+FITA+KOBYLA+ZMEYTSA+STATYA,Szu:lx:zuIlx:lxIzu",
   ",ZAKRYTAYA:Szu,S ROGOM:DVUMYA ZAPYATYMI:zuI PODCHASHIEM+POLKULIZMY+STATYAoo+STRELA PROSTAYA",
   ",MRACHNOTIKHAYA,KRYZHEVAYA,POLUPOVODNAYA,POVODNAYA,oo,KLYUCHEPOVODNAYA,KLYUCHENEPOSTOYANNAYA",
   ",TIKHAYA PUTNAYA,DVOECHELNAYA,DVOECHELNOKRYZHEVAYA,DVOECHELNOPOVODNAYA,DVOECHELNAYAlt",
   ",DVOECHELNOPOVODNAYAlt,GROMNAYAzeukzt,iuzeukzt,GROMNAYA,iu:zefxzt,GROMOKRYZHEVAYA:POVODNAYA",
   "+MECHIK,POVODNY,KLYUCHEVOY,KLYUCHEPOVODNY,KLYUCHENEPOSTOYANNY+STRELA TRYASOGLASNAYA",
   ",TRYASOPOVODNAYA,TRYASOSTRELNAYA+OSOKA,vu,TRESVETLAYA,KRYUKOVAYAvu,ltvu:oo+STRELA KRYUKOVAYA",
   ":POVODNAYA:GROMNAYAzeukzt:iuzeukzt:GROMNAYA:iu;zefxzt:GROMOKRYZHEVAYA;POVODNAYA:TRYASKA",
   "+KUFISMA+OBLAKO+DUDA+NEMKA+PAUK^1D000&BYZANTINEojvwrk,DASEIA,qr,OXEIA EKFONITIKON:DIPLI",
   ",VAREIA EKFONITIKON:DIPLI,KATHISTI,SYRMATIKI,PARAKLITIKI,YPOKRISIS:DIPLI,KREMASTI",
   ",APESO EKFONITIKON,EXO EKFONITIKON,TELEIA,KENTIMATA,APOSTROFOS:DIPLI,SYNEVMA,THITA,OLIGONbc",
   ",GORGONbc,PSILON,CHAMILON,VATHY,ISONbc,KENTIMAbc,KENTIMATAbc,SAXIMATA,PARICHON",
   ",STAVROS APODEXIA,OXEIAIbc,VAREIAIbc,APODERMAbc,APOTHEMA,KLASMA,REVMA,PIASMAbc,TINAGMA",
   ",ANATRICHISMA,SEISMA,SYNAGMAbc:META STAVROU,OYRANISMAbc,THEMA,LEMOI,DYO,TRIA,TESSERA,KRATIMATA",
   ",APESO EXOon,FTHORAbc,IMIFTHORA,TROMIKONbc,KATAVA TROMIKON,PELASTON,PSIFISTON,KONTEVMA",
   ",CHOREVMAbc,RAPISMA,PARAKALESMAbc,PARAKLITIKIbc,ICHADIN,NANA,PETASMA,KONTEVMA ALLO",
   ",TROMIKON ALLO,STRAGGISMATA,GRONTHISMATA,ISONon,OLIGONon,OXEIAon,PETASTI,KOUFISMA",
   ",PETASTOKOUFISMA,KRATIMOKOUFISMA,PELASTONon,KENTIMATAonANO,KENTIMAonANO,YPSILI,APOSTROFOSon",
   ",APOSTROFOI SYNDESMOSon,YPORROI,KRATIMOYPORROON,ELAFRON,CHAMILI,MIKRON ISON,VAREIAon,PIASMAon",
   ",PSIFISTONon,OMALON,ANTIKENOMA,LYGISMA,PARAKLITIKIon,PARAKALESMAon,ETERON PARAKALESMA,KYLISMA",
   ",ANTIKENOKYLISMA,TROMIKONon,EKSTREPTON,SYNAGMAon,SYRMA,CHOREVMAon,EPEGERMA,SEISMAon",
   ",XIRON KLASMA,TROMIKOPSIFISTON,PSIFISTOLYGISMA,TROMIKOLYGISMA,TROMIKOPARAKALESMA",
   ",PSIFISTOPARAKALESMA,TROMIKOSYNAGMA,PSIFISTOSYNAGMA,GORGOSYNTHETON,ARGOSYNTHETON",
   ",ETERON ARGOSYNTHETON,OYRANISMAon,THEMATISMOS ESO:EXO,THEMA APLOUN,THES KAI APOTHES,KATAVASMA",
   ",ENDOFONON,YFEN KATO:ANO,STAVROS,KLASMA ANO,DIPLIbc,KRATIMAbc:ALLO:on,APODERMAon,APLI,DIPLI",
   ",TRIPLI,TETRAPLI,KORONIS,LEIMMA ENOS CHRONOU:DYO CHRONON:TRION CHRONON:TESSARON CHRONON",
   ":IMISEOS CHRONOU,GORGONonANO:PARESTIGMENON ARISTERA;DEXIA,DIGORGON:PARESTIGMENON ARISTERA KATO",
   "<ANO;DEXIA,TRIGORGON,ARGON,IMIDIARGON,DIARGON,AGOGI POLI ARGI:ARGOTERI:ARGI:METRIA:MESI:GORGI",
   ":GORGOTERI:POLI GORGI,MARTYRIA PROTOSkb:ALLI PROTOSkb:DEYTEROSkb:ALLI DEYTEROSkb:TRITOSkb",
   ":TRIFONIAS:TETARTOSkb;LEGETOSkb:LEGETOSkb:PLAGIOSkb,ISAKIA TELOUS ICHIMATOS",
   ",APOSTROFOI TELOUS ICHIMATOS,FANEROSIS TETRAFONIAS:MONOFONIAS:DIFONIAS,MARTYRIA VARYSkb",
   ":PROTOVARYSkb:PLAGIOS TETARTOSkb,GORTHMIKON N APLOUN;DIPLOUN,ENARXIS KAI FTHORA VOU,IMIFONON",
   ",IMIFTHORON,FTHORAbcDEYTEROU ICHOU:DIATONIKIqh;NANA:NAOSkb:DIATONIKI DI:SKLIRON DIATONON DI",
   ":DIATONIKI KE;ZO;NI KATO<ANO:MALAKON CHROMA DIFONIAS<MONOFONIAS,FHTORA SKLIRON CHROMA VASIS",
   ",FTHORA SKLIRON CHROMA SYNAFI:NENANO,CHROA ZYGOS:KLITON:SPATHI,FTHORA I YFESIS TETARTIMORION",
   ":ENARMONIOS ANTIFONIA,YFESIS TRITIMORION,DIESIS TRITIMORION:TETARTIMORION:APLI DYOfs",
   ":MONOGRAMMOS TESSERAfs:DIGRAMMOS EXfs:TRIGRAMMOS OKTOfs,YFESIS APLI DYOfs",
   ":MONOGRAMMOS TESSERAfs:DIGRAMMOS EXfs:TRIGRAMMOS OKTOfs,GENIKI DIESIS:YFESIS",
   ",DIASTOLI APLI MIKRI;MEGALI:DIPLI:THESEOS,SIMANSIS THESEOS;DISIMOU;TRISIMOU;TETRASIMOU:ARSEOS",
   ";DISIMOU;TRISIMOU;TETRASIMOU,DIGRAMMA GG,DIFTOGGOS OU,STIGMA,ARKTIKOqh:VOU:ig:DI:KE:ZO:NI",
   ",KENTIMATAonMESO,KENTIMAonMESO,KENTIMATAonKATO,KENTIMAonKATO,KLASMA KATO,GORGONonKATO",
   "^1D100&ojvwukBARLINE+fxBARLINE+hqBARLINE+schqBARLINE+ezBARLINE+ucBARLINE+mhREPEATuh+sgREPEATuh",
   "+REPEATfv+DAL SEGNO+esCAPO+SEGNO+CODA+REPEATED FIGURE-1,FIGURE-2,FIGURE-3+FERMATA,bx+BREATHnm",
   "+CAESURA+BRACE+cm+ONE-LINE STAFF+TWO-LINE STAFF+THREE-LINE STAFF+FOUR-LINE STAFF",
   "+FIVE-LINE STAFF+SIX-LINE STAFF+SIX-STRING FRETBOARD+FOUR-STRING FRETBOARD+G CLEF:OTTAVA ALTA",
   ";BASSA+C CLEF+F CLEF:OTTAVA ALTA;BASSA+DRUM CLEF-1,CLEF-2^1D129+ogMEASUREsa+fxSHARP,FLAT",
   "+FLATyf,ga+NATURALyf,ga+SHARPyf,ga+rqxfSHARP:FLAT+COMMON TIME+CUT TIME+OTTAVA ALTA,BASSA",
   "+QUINDICESIMA ALTA,BASSA+MULTIsa+WHOLEsa+iysa+rqsa+gksa+uosa+THIRTY-SECONDsa+SIXTY-FOURTHsa",
   "+ptjyTWENTY-EIGHTHsa+Xpd+qzpd+dmXpd+vcpdzd:cg+xnpdyfzd;cg:mhzd;cg:sgzd;cg:gazd;cg:yfsgzd<cg",
   "+nzpdzd:cg+TRIANGLE-ROUNDpdgazd;cg+qmpd+VOIDpd+pdcg+NULLpd+CLUSTERpdzd:cg+cn+WHOLEpc+iypc+rqpc",
   "+gkpc+uopc+THIRTY-SECONDpc+SIXTY-FOURTHpc+ptjyTWENTY-EIGHTHpc+dvSTEM,SPRECHGESANG STEM",
   ",TREMOLO-1,TREMOLO-2,TREMOLO-3+FINGERED TREMOLO-1,TREMOLO-2,TREMOLO-3+dvAUGMENTATIONft,FLAG-1",
   ",FLAG-2,FLAG-3,FLAG-4,FLAG-5+BEGIN BEAM+grBEAM+BEGIN TIE+grTIE+BEGIN SLUR+grSLUR+BEGIN PHRASE",
   "+grPHRASE+dvae,STACCATO,TENUTO,STACCATISSIMO,MARCATO,MARCATO-STACCATO,ACCENT-STACCATO,LOURE",
   "+ARPEGGIATOyf,ga+dvDOIT,RIP,FLIP,SMEAR,BEND,fxTONGUE,xqTONGUE+RINFORZANDO+SUBITO+Z+PIANO+MEZZO",
   "+FORTE+CRESCENDO+DECRESCENDO+GRACEpcur:ovur+TR+TURN+ksTURN+TURNur,yf+qaSTROKE-1,STROKE-2",
   ",STROKE-3,STROKE-4,STROKE-5,STROKE-6,STROKE-7,STROKE-8,STROKE-9,STROKE-10,STROKE-11",
   "+HAUPTSTIMME+NEBENSTIMME+grpnSTIMME+DEGREEur+dvgaBOW,yfBOW,HARMONIC,SNAP PIZZICATO+PEDALnm",
   ",yfnm+iyPEDALnm+GLISSANDOyf,ga+zeFINGERNAILS+DAMP,ALL+MAXIMA+LONGA+BREVIS+SEMIBREVISzd,cg",
   "+MINIMA,cg+SEMIMINIMAzd,cg+FUSAzd,cg+LONGA PERFECTAsa,IMPERFECTAsa+BREVISsa+SEMIBREVISsa",
   "+MINIMAsa+SEMIMINIMAsa+TEMPUS PERFECTUM CUM PROLATIONE PERFECTA<IMPERFECTA",
   "<PERFECTA DIMINUTION-1,IMPERFECTUM CUM PROLATIONE PERFECTA<IMPERFECTA=DIMINUTION-1",
   "=DIMINUTION-2=DIMINUTION-3+CROIX+GREGORIAN C CLEF,F CLEF+vcB+VIRGA+PODATUS+CLIVIS+SCANDICUS",
   "+CLIMACUS+TORCULUS+PORRECTUS,FLEXUS+SCANDICUS FLEXUS+TORCULUS RESUPINUS+PES SUBPUNCTIS",
   "+KIEVAN C CLEF,grpnPIECE,hqpc,RECITATIVEnm,WHOLEpc,iypc,rqpcSTEMga<yf,gkpcSTEMga<yf,FLATuh",
   "+SORI+KORON^1D200&itVOCALpaSYMBOL-1,SYMBOL-2,SYMBOL-3,SYMBOL-4,SYMBOL-5,SYMBOL-6,SYMBOL-7",
   ",SYMBOL-8,SYMBOL-9,SYMBOL-10,SYMBOL-11,SYMBOL-12,SYMBOL-13,SYMBOL-14,SYMBOL-15,SYMBOL-16",
   ",SYMBOL-17,SYMBOL-18,SYMBOL-19,SYMBOL-20,SYMBOL-21,SYMBOL-22,SYMBOL-23,SYMBOL-24,SYMBOL-50",
   ",SYMBOL-51,SYMBOL-52,SYMBOL-53,SYMBOL-54*INSTRUMENTALpaSYMBOL-1,SYMBOL-2,SYMBOL-4,SYMBOL-5",
   ",SYMBOL-7,SYMBOL-8,SYMBOL-11,SYMBOL-12,SYMBOL-13,SYMBOL-14,SYMBOL-17,SYMBOL-18,SYMBOL-19",
   ",SYMBOL-23,SYMBOL-24,SYMBOL-25,SYMBOL-26,SYMBOL-27,SYMBOL-29,SYMBOL-30,SYMBOL-32,SYMBOL-36",
   ",SYMBOL-37,SYMBOL-38,SYMBOL-39,SYMBOL-40,SYMBOL-42,SYMBOL-43,SYMBOL-45,SYMBOL-47,SYMBOL-48",
   ",SYMBOL-49,SYMBOL-50,SYMBOL-51,SYMBOL-52,SYMBOL-53,SYMBOL-54&dvitojTRISEME,TETRASEME,PENTASEME",
   "&itojLEIMMA^1D2E0&MAYANphzw+pt+yb+wy+ib+hu+um+to+gi+or+wk+go+xz+wu+ic+hm+un+tp+gj+os",
   "^1D300&nyhxge&DIGRAMhxHEAVENLYge+HUMANge+EARTHLY HEAVEN,HUMAN+ge&TETRAGRAMhxdc+ifdm+MIRED",
   "+BARRIER+KEEPINGus+CONTRARIETY+ASCENT+OPPOSITION+BRANCHING OUT+DEFECTIVENESSpyDISTORTION",
   "+DIVERGENCE+YOUTHFULNESS+INCREASE+PENETRATION+REACH+CONTACT+HOLDINGbn+WAITING+FOLLOWING",
   "+ADVANCE+RELEASE+RESISTANCE+EASE+JOY+CONTENTION+ENDEAVOUR+DUTIES+CHANGE+DECISIVENESS",
   "+cjRESOLUTION+PACKING+LEGION+CLOSENESS+KINSHIP+GATHERING+STRENGTH+PURITY+FULLNESS+RESIDENCE",
   "+LAWpyMODEL+RESPONSE+GOINGxeMEET+ENCOUNTERS+STOVE+GREATNESS+ENLARGEMENT+PATTERN+RITUAL+FLIGHT",
   "+VASTNESSpyWASTING+CONSTANCY+MEASURE+ETERNITY+UNITY+DIMINISHMENT+dsob+GUARDEDNESS+GATHERINGkf",
   "+MASSING+ACCUMULATION+EMBELLISHMENT+DOUBT+WATCH+SINKING+INNER+DEPARTURE+DARKENING+DIMMING",
   "+EXHAUSTION+SEVERANCE+STOPPAGE+HARDNESS+COMPLETION+CLOSURE+FAILURE+AGGRAVATION+COMPLIANCE",
   "+pswnVERGE+DIFFICULTIES+LABOURING+FOSTERING^1D360&COUNTING ROD UNITfopt:yb:wy:ib:hu:um:to:gi",
   ":or+TENSfopt:yb:wy:ib:hu:um:to:gi:or&kcTALLYnmpt,yb,wy,ib,hu&TALLYnmpt+hu^1D400&nocjcvA,B,C,D",
   ",E,F,G,H,I,J,K,L,M,N,O,P,Q,R,S,T,U,V,W,X,Y,Z+usA,B,C,D,E,F,G,H,I,J,K,L,M,N,O,P,Q,R,S,T,U,V,W,X",
   ",Y,Z*kwcvA,B,C,D,E,F,G,H,I,J,K,L,M,N,O,P,Q,R,S,T,U,V,W,X,Y,Z+usA,B,C,D,E,F,G^1D456,I,J,K,L,M,N",
   ",O,P,Q,R,S,T,U,V,W,X,Y,Z*cjkwcvA:B:C:D:E:F:G:H:I:J:K:L:M:N:O:P:Q:R:S:T:U:V:W:X:Y:Z,usA:B:C:D:E",
   ":F:G:H:I:J:K:L:M:N:O:P:Q:R:S:T:U:V:W:X:Y:Z*tgcvA^1D49E,C,D^1D4A2,G^1D4A5,J,K^1D4A9,N,O,P,Q",
   "^1D4AE,S,T,U,V,W,X,Y,Z+usA,B,C,D^1D4BB,F^1D4BD,H,I,J,K,L,M,N^1D4C5,P,Q,R,S,T,U,V,W,X,Y,Z",
   "*cjtgcvA:B:C:D:E:F:G:H:I:J:K:L:M:N:O:P:Q:R:S:T:U:V:W:X:Y:Z,usA:B:C:D:E:F:G:H:I:J:K:L:M:N:O:P:Q",
   ":R:S:T:U:V:W:X:Y:Z*FRAKTURcvA,B^1D507,D,E,F,G^1D50D,J,K,L,M,N,O,P,Q^1D516,S,T,U,V,W,X,Y",
   "^1D51E+usA,B,C,D,E,F,G,H,I,J,K,L,M,N,O,P,Q,R,S,T,U,V,W,X,Y,Z*fzcvA,B^1D53B,D,E,F,G^1D540,I,J,K",
   ",L,M^1D546,O^1D54A,S,T,U,V,W,X,Y^1D552+usA,B,C,D,E,F,G,H,I,J,K,L,M,N,O,P,Q,R,S,T,U,V,W,X,Y,Z",
   "*cjFRAKTURcvA:B:C:D:E:F:G:H:I:J:K:L:M:N:O:P:Q:R:S:T:U:V:W:X:Y:Z,usA:B:C:D:E:F:G:H:I:J:K:L:M:N",
   ":O:P:Q:R:S:T:U:V:W:X:Y:Z*tccvA,B,C,D,E,F,G,H,I,J,K,L,M,N,O,P,Q,R,S,T,U,V,W,X,Y,Z+usA,B,C,D,E,F",
   ",G,H,I,J,K,L,M,N,O,P,Q,R,S,T,U,V,W,X,Y,Z+cjcvA:B:C:D:E:F:G:H:I:J:K:L:M:N:O:P:Q:R:S:T:U:V:W:X:Y",
   ":Z,usA:B:C:D:E:F:G:H:I:J:K:L:M:N:O:P:Q:R:S:T:U:V:W:X:Y:Z+kwcvA:B:C:D:E:F:G:H:I:J:K:L:M:N:O:P:Q",
   ":R:S:T:U:V:W:X:Y:Z,usA:B:C:D:E:F:G:H:I:J:K:L:M:N:O:P:Q:R:S:T:U:V:W:X:Y:Z+cjkwcvA;B;C;D;E;F;G;H",
   ";I;J;K;L;M;N;O;P;Q;R;S;T;U;V;W;X;Y;Z:usA;B;C;D;E;F;G;H;I;J;K;L;M;N;O;P;Q;R;S;T;U;V;W;X;Y;Z",
   "*MONOSPACEcvA,B,C,D,E,F,G,H,I,J,K,L,M,N,O,P,Q,R,S,T,U,V,W,X,Y,Z+usA,B,C,D,E,F,G,H,I,J,K,L,M,N",
   ",O,P,Q,R,S,T,U,V,W,X,Y,Z*kwusfuI:J^1D6A8*cjcvan,ca,ih,fe,gt,zx,ha,wq,kt,lh,mb,of,NU,XI,pr,qw",
   ",se,wqvw,ug,we,yj,qu,dk,rj,pq+NABLA+usan,ca,ih,fe,gt,zx,ha,wq,kt,lh,mb,of,NU,XI,pr,qw,se,hqug",
   ",ug,we,yj,qu,dk,rj,pq+qofn+gtvw+wqvw+lhvw+quvw+sevw+qwvw*kwcvan,ca,ih,fe,gt,zx,ha,wq,kt,lh,mb",
   ",of,NU,XI,pr,qw,se,wqvw,ug,we,yj,qu,dk,rj,pq+NABLA+usan,ca,ih,fe,gt,zx,ha,wq,kt,lh,mb,of,NU,XI",
   ",pr,qw,se,hqug,ug,we,yj,qu,dk,rj,pq+qofn+gtvw+wqvw+lhvw+quvw+sevw+qwvw*cjkwcvan:ca:ih:fe:gt:zx",
   ":ha:wq:kt:lh:mb:of:NU:XI:pr:qw:se:wqvw:ug:we:yj:qu:dk:rj:pq,NABLA,usan:ca:ih:fe:gt:zx:ha:wq:kt",
   ":lh:mb:of:NU:XI:pr:qw:se:hqug:ug:we:yj:qu:dk:rj:pq,qofn,gtvw,wqvw,lhvw,quvw,sevw,qwvw*tccjcvan",
   ":ca:ih:fe:gt:zx:ha:wq:kt:lh:mb:of:NU:XI:pr:qw:se:wqvw:ug:we:yj:qu:dk:rj:pq,NABLA,usan:ca:ih:fe",
   ":gt:zx:ha:wq:kt:lh:mb:of:NU:XI:pr:qw:se:hqug:ug:we:yj:qu:dk:rj:pq,qofn,gtvw,wqvw,lhvw,quvw",
   ",sevw,qwvw,kwcvan;ca;ih;fe;gt;zx;ha;wq;kt;lh;mb;of;NU;XI;pr;qw;se;wqvw;ug;we;yj;qu;dk;rj;pq",
   ":NABLA:usan;ca;ih;fe;gt;zx;ha;wq;kt;lh;mb;of;NU;XI;pr;qw;se;hqug;ug;we;yj;qu;dk;rj;pq:qofn",
   ":gtvw:wqvw:lhvw:quvw:sevw:qwvw*cjcvDIGAMMA+usDIGAMMA^1D7CE+fozw,pt,yb,wy,ib,hu,um,to,gi,or",
   "*fzfozw,pt,yb,wy,ib,hu,um,to,gi,or*tcfozw,pt,yb,wy,ib,hu,um,to,gi,or+cjfozw:pt:yb:wy:ib:hu:um",
   ":to:gi:or*MONOSPACEfozw,pt,yb,wy,ib,hu,um,to,gi,or&SIGNWRITINGjfkh*jckh*jdkh*HAND-OVALkh*jgkh",
   "*jbkh*jfkhby*jckhby*jfxaUNDERkhby+khrwKNUCKLE,CUPPED,js:nb*jckhHINGE*jfkhnt*jckhnt*jfkhntby",
   ":rwKNUCKLES:js,yfntjs,jsntyf,ntdz;khby;ntby;CUPPED;js:ej*jckhntej*jfntbyqckh+khbyqcnt,ntxa",
   "*jckhntxa*jfkhntvixaby:byxavi:xaby:jsvbxaue,yfntjsxaue=dz,jsntyfxaue,ntyfvbxaia:xaCUPPED;dn",
   ";HOOKED;js+xacckhntvi+khntdzxaue=dz=by+ntxaHOOKEDkhyf+khxaHOOKEDntyf,ntdzjsxaue:ejxaue:dzxaia",
   ";CUPPEDxaia+ntxaCUPPEDkhyf+khxaCUPPEDntyf+ntxadnkhyf<js+khxaANGLED OUTntyf;kfntyf:dnntyf",
   ",ntxadzjs;ANGLED OUT;ANGLED+ntxaANGLED OUTkhyf=ej;khyf+khxaHOOKEDntjs*HAND-FLATibhs:by:js:dz",
   ";SPLIT*HAND-CLAWibhsdz*jfibhsdzby*jgibhsdz*HAND-FLAThuhsvb+HEELhuhsvb+huhsvbibby",
   "+HEELhuhsvbibby+huhsvbby+HEELhuhsvbby+huhsvbxaia*jdhuhsvb;pv*jghuhsvbpv*HAND-OVALhuhsvb",
   "*HAND-FLAThuhsvbjs<xaue<ovxa*HAND-FLAT+ccPALM FACINGS+HEEL+xaue+HEELxaue+xaby,ia+SPLITkhxaue",
   ",dc:xaue<by,mu*HAND-CLAW+xaue+ovxa+xaia*jhCURLICUE*jh*jdpv*jd+pvxaue+xaue+pvovxa+ovxa+pvxaia",
   "+xaia*jepv*je*jc*HAND-OVAL+xaue+ovxa+xaia*jgpv,xaia*jg+us+pvxaue+xaue+pvovxa+ovxa",
   "+xaueTOUCHINGkh,ccntsm*jb*jfkhntsm*jckhntsm*jgkhntsm*jbkhntsm*jgmu*jfkhntsmby;dz*jgkhntsmdz",
   "*jfmuga:RIPPLEvi;eq:OTHERSdn,yf+xaUNDERmuyf*jcmuyf*HAND-OVALmuyf*jbmuyf*jfmurwKNUCKLE,by",
   ",TOUCHESxa,xa*jgmuxa*jfmukhxa*jgmukhxa*jbmukhxakhxaOUT<xa*jfmukh*jcmukh*jgmukh*jbmukh*jfkhntmu",
   "*jckhntmu*jgkhntmu+sm*jbkhntmu*jfkhnteimu*jckhnteimu*jfsmga*jgsmgakhxajvnt*jbsmgantxakhei",
   "*jfsmyf,rwKNUCKLE,mu*jcsmmu*HAND-OVALsmmu*jbsmmu*jfsmnt:dz:rwKNUCKLES,kh,xa*jhsmxa*jfkhsmmu",
   "*jckhsmmu*jekhsmmups*jhkhsmmuOUT;kf;UNDER*jdkhsmmu*jgkhsmmu*jbkhsmmuOUT:mu*jfntga*jgnt*jfntyf",
   "*jcntyf*jfntrwKNUCKLE,yfxaue*jhntxa*jfntxamu,mu,smmu*jcntsmmu*jentsmmups*jdntsmmu*jgntsmmu",
   "*jbntsmmuOUT;kf:mu*jcntsmmuby*HAND-CLAWntsmmudz<ue*jhntsmmudzOUT<kf;dz*jgkhjs*jfkhxaue",
   "*jgkhxaue*jfkhxauexafi<dz<by;khby;BOTHby;khHINGE:iakhvi<by:jv:CURLICUE:epxakm",
   "*HAND-CLAWkhxaepxakm*jfkhxaepxaUNDER:dm*jdkhxa:pv*jgkhxapv:md,xa:us*jbkhxaOUT:kf,xa*jfxa,HEEL",
   ",uefi:dz:by,ia,cckhnt:ntsm:smmu,UNDERybhs,qcybhs,UNDERwyhs:ibhs,qcibrwKNUCKLES*jf+HEEL*TOUCHuk",
   "+og+cc*GRASPuk+og+cc*STRIKEuk+og+cc*BRUSHuk+og+cc*RUBuk+og+cc*SURFACE SYMBOLS+cc*SQUEEZEmduk",
   "+usuk+mdog+usog+SEQUENTIAL*FLICKmduk+usuk+mdog+usog+SEQUENTIAL*SQUEEZE FLICKap",
   "*MOVEMENT-HINGEyfgamd:us,SEQUENTIAL+gaSEQUENTIAL+yfgaapmd;us+uexeuetf*oehrCONTACT*odhrCONTACT",
   "*oeukvius:nq:md:me,zhFLEX+fxvi,zhFLEX,ap:zhFLEX+ei+xqvioc,zhFLEX,ap:zhFLEX+BENDus,nq,md+efus",
   ",nq,md,ROTATION+dius,nq,md+clus,nq,md+zzus,nq,md+PEAKSus,nq,md*TRAVEL-WALLPLANEsruk,fx,ap+squk",
   ",fx,ap+SHAKING+ARM SPIRALuk:fx:xq*MOVEMENT-DIAGONAL AWAYus,nq,md,me+TOWARDSus,nq,md,me",
   "+ccAWAYus:nq:md:me,TOWARDSus:nq:md:me*odukvius:nq:md:me,zhFLEX+fxvi,zhFLEX,ap:zhFLEX+ei+xqvioc",
   ",zhFLEX,apoc:zhFLEX+BEND+efus,nq,md+di+clus,nq,md+zzus,nq,md+PEAKSus,nq,md",
   "*TRAVEL-FLOORPLANEsquk,fx,ap+sruk,fx,ap+SHAKING*oeeprqus:nq:md:me,HALF-CIRCLEus:nq:md:me",
   ",THREE-QUARTERdmus;nq+HUMPus,nq,md+naus,nq,md,usfx+yzepfxus;nq;md:xqus;nq;md+epTHENvi+eqeius",
   ":nq*sruk+fx+ao*oeSHAKING+epjuFRONT WALL+HUMPjuFRONT WALL+najuFRONT WALL+yzjuFRONT WALL",
   "*srukjuFRONT WALL+fxjuFRONT WALL+apjuFRONT WALL*oeepjuCHEST+HUMPjuCHEST+najuCHEST+yzjuCHEST",
   "*srukjuCHEST+fxjuCHEST+apjuCHEST*oeyzfiPATHus;nq;md*odepjudaus;md+HUMPjudausfx;mdfx;usxq;mdxq",
   "+najudausuk;mduk;usfx;mdfx+yzjudaus;md*squkjuda+fxjuda+apjuda*odepjuhwus;md+HUMPjuhwusfx;mdfx",
   ";xqusxq<mdxq+najuhwusuk;mduk;usfx;mdfx+yzjuhwus;md*squkjuhw+fxjuhw+apjuhw*odepus,nq,md,me",
   ",COMBINED+HUMPus+naus+yzSNAKE,us,md*squk+fx+ap*odSHAKINGql*oeARMdmusuk:nquk:usfx:nqfx",
   "*odARMdmjuWALLusuk<nquk<mduk<usfx<nqfx<mdfx*oezhdmFRONTuk;fx*odzhdmjuWALLuk<fx*oehrdouk:fx",
   "*odhrdojuWALLuk<fx*DYNAMICbeus,md+FAST+SLOW+TENSE+RELAXED+SIMULTANEOUS,ap+EVERY OTHER TIME",
   "+GRADUAL*jl+RIM+oevi,TILT+odvi+oeep+odep+ocdm*hhDIRECTION POSITION NOSEiaTILTING;yfpyga",
   ">TILTING*EYEBROWSviyf,op,ga*DREAMY EYEBROWSopga,gaop,yfop,opyf*FOREHEADop+CONTACT+zg*hfpv",
   "+SQUEEZED+ds*EYE BLINKuk,og*hfiypv+WIDEpv+iyds+WIDENINGoc*EYE WINK*EYELASHESyf+ga+FLUTTERING",
   "*EYEGAZE-WALLPLANEvi,fx,ap*EYEGAZE-FLOORPLANEvi,fx,ap*EYEGAZE-WALLPLANEeq*EYEGAZE-FLOORPLANEeq",
   "*EYEGAZE-WALLPLANE CIRCLING*CHEEKS PUFFED+op+SUCKED*TENSE CHEEKSjr,nt,nb*EARS*NOSEop+CONTACT",
   "+WRINKLES+WIGGLES*AIR BLOWING OUT+SUCKINGkf+BLOWusROTATIONS+SUCKusROTATIONS*BREATH INHALE",
   "+EXHALE*obdsop,ia,CONTACT+SMILE,zg,pv+FROWN,zg,pv+pvdm,ia,zg,OVAL:zg:YAWN,rx:zg:YAWN+KISS,ia",
   ",zg+TENSE,ia,SUCKED*LIPS PRESSED TOGETHER*LIPncqcyi+yiqcnc*obCORNERS+WRINKLESuk,fx",
   "*TONGUE STICKING OUT FAR+LICKING LIPS+TIPccLIPS,TOUCHINGkmob+kmobRELAXED+MOVES AGAINST CHEEK",
   "+dcSTICKING OUT,kmob*TEETH+oc+psTONGUE:oc,LIPS:oc+BITE LIPS*oeJAW*odJAW*NECK*HAIR*EXCITEMENT",
   "*SHOULDER HIP SPINE,POSITIONS*WALLPLANE SHOULDER HIP MOVE*FLOORPLANE SHOULDER HIP MOVE",
   "*SHOULDER TILTINGieWAIST*TORSO-WALLPLANEviSTRETCH+eqBEND*TORSO-FLOORPLANE TWISTING",
   "*yiBODY TILTINGieHIP JOINTS*LIMB COMBINATION+LENGTH-1+LENGTH-2+LENGTH-3+LENGTH-4+LENGTH-5",
   "+LENGTH-6+LENGTH-7*hr*LOCATION-WALLPLANEuy*LOCATION-FLOORPLANEuy*LOCATION HEIGHT+WIDTH+DEPTH",
   "+jlNECK+TORSO+LIMBS DIGITS*dw*ifvh*tl*du*qm^1DA9B*hoMODIFIER-2+MODIFIER-3+MODIFIER-4",
   "+MODIFIER-5+MODIFIER-6^1DAA1*ROTATION MODIFIER-2+MODIFIER-3+MODIFIER-4+MODIFIER-5+MODIFIER-6",
   "+MODIFIER-7+MODIFIER-8+MODIFIER-9+MODIFIER-10+MODIFIER-11+MODIFIER-12+MODIFIER-13+MODIFIER-14",
   "+MODIFIER-15+MODIFIER-16^1DF00&mfusmqFENGfpzeTRILL,sdtgG*mquscvxwG*usmqsdK*mquscvLzeBELT",
   "*usmqLEZHzesbjv,xwYzeBELT,sdENG,xwRzemymmassbjv,Tzejvassbjv*mqsbdqzesbjv*usmqgzzefxbt=asen",
   ",xwTzeen*mqksiqvhzeen+STRETCHED Czeen+uscvxwK*usmqLzeht,DEZHfpzeqjjv,LzeBELTasqjjv,ENGzeqjjv",
   ",xwRzeqjjv,Rzehtasqjjv,TESHfpzeqjjv,EZHzeqjjv,DEZHfpzesbjv,Izevjassbjv,Ozesbjv,TESHfpzesbjv",
   ",Czesbjv,Szeen^1E000&dvGLAGOLITICmqAZU,BUKY,VEDE,GLAGOLI,DOBRO,YESTU,ZHIVETE^1E008,ZEMLJA,IZHE",
   ",klIZHE,I,DJERVI,KAKO,LJUDIJE,MYSLITE,NASHI,ONU,POKOJI,RITSI,SLOVO,TVRIDO,UKU,FRITU,HERU",
   "^1E01B,SHTA,TSI,CHRIVI,tr,YERU,YERI,YATI^1E023,zp,uszq^1E026,YO,IOTATEDuszq,BIGzq",
   ",IOTATED BIGzq,FITA^1E100&NYIAKENG PUACHUE HMONGmqnf:xr:NTA:vx:iw:ok:XA:NKA:cr:ly:sx:zr:NCA",
   ":NTSA:le:es:pj:NRA:ym:NTXA:TXA:hg:rv:QA:zj:NQA:qh:XYA:NPA:DLA:NPLA:ix:MLA:PLA:ig:sv:A:aa:I:U:O",
   ":pu:E:gg:W^1E130,TONE-B,TONE-M,TONE-J,TONE-V,TONE-S,TONE-G,TONE-D,uhhxqs;THING;LOCATION;ANIMAL",
   ";INVERTEBRATE:XW XW,vvLENGTHENER^1E140,fozw:pt:yb:wy:ib:hu:um:to:gi:or^1E14E,LOGOGRAM NYAJ",
   ",dncr^1E290&TOTOmqqh+bm+vx+es+le+ig+nf+ok+oq+sx+de+zj+yx+kz+iw+rv+ly+I+BREATHY I+IU+BREATHY IU",
   "+U+E+BREATHY E+EO+BREATHY EO+O+AE+BREATHY AE+A*uhsnxf^1E2C0&WANCHOmqaa+A+bm+cr+es+ig+zj+qt+ly",
   "+ok+qh+vx+wm+hg+sx+tr+kz+zr+yx+ym+le+O+bj+rv+nf+ln+iw+E+I+oq+U+LLHA+xr+TRA+ONG+AANG+ANG+ING+ps",
   "+gq+AAN+pj+UEN+YIH*xfTUP+TUPNI+KOI+KOINI*fozw+pt+yb+wy+ib+hu+um+to+gi+or^1E2FF*NGUNuh",
   "^1E7E0&ETHIOPICvvHHYA+HHYU+HHYI+HHYAA+HHYEE+HHYE+HHYO^1E7E8+GURAGE HHWA+HHWI+HHWEE+HHWE",
   "^1E7ED+GURAGE MWI,MWEE^1E7F0,QWI,QWEE,QWE,BWI,BWEE,KWI,KWEE,KWE,GWI,GWEE,GWE,FWI,FWEE,PWI,PWEE",
   "^1E800&MENDE KIKAKUIvvM001 KI,M002le,M003 KU,M065 KEE,M095 KE,M076 KOO,M048 KO,M179 KUA",
   ",M004 WI,M005yx,M006 WU,M126 WEE,M118 WE,M114 WOO,M045 WO,M194 WUI,M143 WEI,M061 WVI,M049 WVA",
   ",M139 WVE,M007 MIN,M008nl,M009 MUN,M059 MEN,M094 MON,M154 MUAN,M189 MUEN,M010 BI,M011bm",
   ",M012 BU,M150 BEE,M097 BE,M103 BOO,M138 BO,M013 I,M014 A,M015 U,M163gg,M100 E,M165pu,M147 O",
   ",M137 EI,M131kf,M135kf,M195ar,M178gq,M019 SI,M020sx,M021 SU,M162 SEE,M116 SE,M136 SOO,M079 SO",
   ",M196 SIA,M025 LI,M026ly,M027 LU,M084 LEE,M073 LE,M054 LOO,M153 LO,M110myLE,M016 DI,M017es",
   ",M018 DU,M089 DEE,M180 DOO,M181 DO,M022 TI,M023vx,M024 TU,M091 TEE,M055wf,M104 TOO,M069xe",
   ",M028 JI,M029kz,M030 JU,M157 JEE,M113 JE,M160 JOO,M063 JO,M175myJO,M031 YI,M032zj,M033zp",
   ",M109 YEE,M080 YE,M141 YOO,M121 YO,M034 FI,M035hg,M036 FU,M078 FEE,M075 FE,M133 FOO,M088 FO",
   ",M197 FUA,M101 FAN,M037 NIN,M038 NAN,M039pi,M117 NEN,M169 NON,M176 HI,M041iw,M186 HU,M040 HEE",
   ",M096jk,M042 HOO,M140 HO,M083 HEEI,M128 HOOU,M053 HIN,M130 HAN,M087 HUN,M052 HEN,M193 HON",
   ",M046 HUAN,M090 NGGI,M043 NGGA,M082 NGGU,M115 NGGEE,M146 NGGE,M156 NGGOO,M120 NGGO,M159 NGGAA",
   ",M127 NGGUA,M086myNGGE,M106myNGGOO,M183myNGGO,M155 GI,M111ig,M168 GU,M190 GEE,M166 GUEI",
   ",M167 GUAN,M184 NGEN,M057 NGON,M177 NGUAN,M068qw,M099qh,M050 PU,M081 PEE,M051qq,M102 POO",
   ",M066 PO,M145 MBI,M062 MBA,M122 MBU,M047 MBEE,M188 MBEE,M072 MBE,M172 MBOO,M174 MBO,M187 MBUU",
   ",M161myMBE,M105myMBOO,M142myMBO,M132 KPI,M092 KPA,M074 KPU,M044 KPEE,M108 KPE,M112 KPOO",
   ",M158 KPO,M124 GBI,M056 GBA,M148 GBU,M093 GBEE,M107 GBE,M071 GBOO,M070 GBO,M171rv,M123 NDI",
   ",M129 NDA,M125 NDU,M191 NDEE,M119 NDE,M067 NDOO,M064 NDO,M152 NJA,M192 NJU,M149 NJEE,M134 NJOO",
   ",M182 VI,M185ym,M151 VU,M173 VEE,M085 VE,M144 VOO,M077 VO,M164 NYIN,M058 NYAN,M170 NYUN",
   ",M098 NYEN,M060 NYON^1E8C7+fopt,yb,wy,ib,hu,um,to,gi,or+dvpgTEENS:TENS:HUNDREDS:wx:wkwx:jywx",
   ":nv^1E900&ADLAMcvmqALIF,DAALI,LAAM,MIIM,bm,SINNYIIYHE,qq,BHE,rv,E,hg,I,O,fg,YHE,za,pi,lf,zj,U",
   ",JIIM,dk,iw,QAAF,ig,pj,TU,NHA,ym,ln,GBE,ZAL,KPO,tr*usmqALIF,DAALI,LAAM,MIIM,bm,SINNYIIYHE,qq",
   ",BHE,rv,E,hg,I,O,fg,YHE,za,pi,lf,zj,U,JIIM,dk,iw,QAAF,ig,pj,TU,NHA,ym,ln,GBE,ZAL,KPO,tr",
   "*ALIF LENGTHENER*ywLENGTHENER*iknm*iz*eanx*GEMINATEeanx*pf*NASALIZATIONnm^1E950*fozw+pt+yb+wy",
   "+ib+hu+um+to+gi+or^1E95E*klhbnm+rtnm^1EC71&INDIC SIYAQpgpt,yb,wy,ib,hu,um,to,gi,or,wk,ya,wv,hz",
   ",hn,up,tq,gm,ot,ptjy,ybjy,wyjy,ibjy,hujy,umjy,tojy,gijy,orjy,ptww,ybww,wyww,ibww,huww,umww",
   ",toww,giww,orww,wkww,yaww,wvww,hzww,hnww,upww,tqww,gmww,otww,LAKH,LAKHAN+LAKHnm+pgKAROR",
   ",KARORAN,PREFIXEDpt:yb:wy:ib:hu:um:to:gi:or+PLACEHOLDER+idptrq:iy,wyrr+RUPEEnm+pgaopt:yb:wkww",
   "+aoLAKHnm^1ED01&OTTOMAN SIYAQpgpt,yb,wy,ib,hu,um,to,gi,or,wk,ya,wv,hz,hn,up,tq,gm,ot,ptjy,ybjy",
   ",wyjy,ibjy,hujy,umjy,tojy,gijy,orjy,ptww,ybww,wyww,ibww,huww,umww,toww,giww,orww,wkww,yaww",
   ",wvww,hzww,hnww,upww,tqww,gmww,otww+MARRATAN+aopgyb:wy:ib:hu:um:to:gi:or:wk:ibjy:umjy:ybww",
   ":wkww+idptiy:SIXTH^1EE00&aznoaj+bw+lb+DAL^1EE05+za+zs+ix+wa+zl+lf+ma+nr+ow+tj+ah+hl+sy+rm+ry",
   "+ty+wi+wo+lo+THAL+et+ZAH+im+fubw,ow,hl,rm^1EE21+klbw,lb^1EE24,jp^1EE27,ix^1EE29,zl,lf,ma,nr,ow",
   ",tj,ah,hl,sy,rm^1EE34,ty,wi,wo,lo^1EE39,et^1EE3B,im^1EE42+TAILEDlb^1EE47,ix^1EE49,zl^1EE4B,ma",
   "^1EE4D,ow,tj,ah^1EE51,sy,rm^1EE54,ty^1EE57,lo^1EE59,et^1EE5B,im^1EE5D,fuow^1EE5F:rm",
   "^1EE61+STRETCHEDbw,lb^1EE64,jp^1EE67,ix,wa,zl,lf^1EE6C,nr,ow,tj,ah,hl,sy,rm^1EE74,ty,wi,wo,lo",
   "^1EE79,et,ZAH,im,fubw^1EE7E:hl^1EE80+LOOPEDaj,bw,lb,DAL,jp,za,zs,ix,wa,zl^1EE8B,ma,nr,ow,tj,ah",
   ",hl,sy,rm,ry,ty,wi,wo,lo,THAL,et,ZAH,im^1EEA1+fzbw,lb,DAL^1EEA5,za,zs,ix,wa,zl^1EEAB,ma,nr,ow",
   ",tj,ah,hl,sy,rm,ry,ty,wi,wo,lo,THAL,et,ZAH,im^1EEF0+pwnrzeixzeTATWEEL,ixzeDAL",
   "^1F000&MAHJONG TILEgfWIND+uxWIND+zbWIND+oyWIND+REDgd+GREENgd+zdgd+ptpndg+ybpndg+wypndg+ibpndg",
   "+hupndg+umpndg+topndg+gipndg+orpndg+ptpnbs+ybpnbs+wypnbs+ibpnbs+hupnbs+umpnbs+topnbs+gipnbs",
   "+orpnbs+ptpndo+ybpndo+wypndo+ibpndo+hupndo+umpndo+topndo+gipndo+orpndo+PLUM+ORCHID+BAMBOO",
   "+CHRYSANTHEMUM+SPRING+SUMMER+AUTUMN+WINTER+JOKER+bn^1F030&DOMINO TILEjwbn+HORIZONTAL-00-00",
   "+HORIZONTAL-00-01+HORIZONTAL-00-02+HORIZONTAL-00-03+HORIZONTAL-00-04+HORIZONTAL-00-05",
   "+HORIZONTAL-00-06+HORIZONTAL-01-00+HORIZONTAL-01-01+HORIZONTAL-01-02+HORIZONTAL-01-03",
   "+HORIZONTAL-01-04+HORIZONTAL-01-05+HORIZONTAL-01-06+HORIZONTAL-02-00+HORIZONTAL-02-01",
   "+HORIZONTAL-02-02+HORIZONTAL-02-03+HORIZONTAL-02-04+HORIZONTAL-02-05+HORIZONTAL-02-06",
   "+HORIZONTAL-03-00+HORIZONTAL-03-01+HORIZONTAL-03-02+HORIZONTAL-03-03+HORIZONTAL-03-04",
   "+HORIZONTAL-03-05+HORIZONTAL-03-06+HORIZONTAL-04-00+HORIZONTAL-04-01+HORIZONTAL-04-02",
   "+HORIZONTAL-04-03+HORIZONTAL-04-04+HORIZONTAL-04-05+HORIZONTAL-04-06+HORIZONTAL-05-00",
   "+HORIZONTAL-05-01+HORIZONTAL-05-02+HORIZONTAL-05-03+HORIZONTAL-05-04+HORIZONTAL-05-05",
   "+HORIZONTAL-05-06+HORIZONTAL-06-00+HORIZONTAL-06-01+HORIZONTAL-06-02+HORIZONTAL-06-03",
   "+HORIZONTAL-06-04+HORIZONTAL-06-05+HORIZONTAL-06-06+ypbn+VERTICAL-00-00+VERTICAL-00-01",
   "+VERTICAL-00-02+VERTICAL-00-03+VERTICAL-00-04+VERTICAL-00-05+VERTICAL-00-06+VERTICAL-01-00",
   "+VERTICAL-01-01+VERTICAL-01-02+VERTICAL-01-03+VERTICAL-01-04+VERTICAL-01-05+VERTICAL-01-06",
   "+VERTICAL-02-00+VERTICAL-02-01+VERTICAL-02-02+VERTICAL-02-03+VERTICAL-02-04+VERTICAL-02-05",
   "+VERTICAL-02-06+VERTICAL-03-00+VERTICAL-03-01+VERTICAL-03-02+VERTICAL-03-03+VERTICAL-03-04",
   "+VERTICAL-03-05+VERTICAL-03-06+VERTICAL-04-00+VERTICAL-04-01+VERTICAL-04-02+VERTICAL-04-03",
   "+VERTICAL-04-04+VERTICAL-04-05+VERTICAL-04-06+VERTICAL-05-00+VERTICAL-05-01+VERTICAL-05-02",
   "+VERTICAL-05-03+VERTICAL-05-04+VERTICAL-05-05+VERTICAL-05-06+VERTICAL-06-00+VERTICAL-06-01",
   "+VERTICAL-06-02+VERTICAL-06-03+VERTICAL-06-04+VERTICAL-06-05+VERTICAL-06-06",
   "^1F0A0&PLAYING CARDbn+ACEpnuz+ybpnuz+wypnuz+ibpnuz+hupnuz+umpnuz+topnuz+gipnuz+orpnuz+wkpnuz",
   "+JACKpnuz+lupnuz+rspnuz+lrpnuz^1F0B1+ACEpnjn+ybpnjn+wypnjn+ibpnjn+hupnjn+umpnjn+topnjn+gipnjn",
   "+orpnjn+wkpnjn+JACKpnjn+lupnjn+rspnjn+lrpnjn+RED JOKER^1F0C1+ACEpnfm+ybpnfm+wypnfm+ibpnfm",
   "+hupnfm+umpnfm+topnfm+gipnfm+orpnfm+wkpnfm+JACKpnfm+lupnfm+rspnfm+lrpnfm+cgJOKER^1F0D1+ACEpndt",
   "+ybpndt+wypndt+ibpndt+hupndt+umpndt+topndt+gipndt+orpndt+wkpndt+JACKpndt+lupndt+rspndt+lrpndt",
   "+zdJOKER+FOOL+TRUMP-1+TRUMP-2+TRUMP-3+TRUMP-4+TRUMP-5+TRUMP-6+TRUMP-7+TRUMP-8+TRUMP-9+TRUMP-10",
   "+TRUMP-11+TRUMP-12+TRUMP-13+TRUMP-14+TRUMP-15+TRUMP-16+TRUMP-17+TRUMP-18+TRUMP-19+TRUMP-20",
   "+TRUMP-21^1F100&fozwifvh+dw*ptdw*ybdw*wydw*ibdw*hudw*umdw*todw*gidw*ordw&DINGBATdntcfozw",
   "*omdntcfozw&dnzwzeur*aubd*DOLLARuhzeOVERLAIDbp&qnmfcvmqA:B:C:D:E:F:G:H:I:J:K:L:M:N:O:P:Q:R:S:T",
   ":U:V:W:X:Y:Z&xltzBRACKETEDmfcvmqS&dnkwmfcvmqC;R*CD*WZ&COPYLEFTvw&vdmfcvmqA:B:C:D:E:F:G:H:I:J:K",
   ":L:M:N:O:P:Q:R:S:T:U:V:W:X:Y:Z*HV*MV*SD*SS*PPV*WC&omdnmfcvmqA;B;C;D;E;F;G;H;I;J;K;L;M;N;O;P;Q",
   ";R;S;T;U;V;W;X;Y;Z&rwMCuh*MDuh*MRuh&dnCC*CzeOVERLAIDbp*HUMAN FIGURE&omvdmfcvmqA;B;C;D;E;F;G;H",
   ";I;J;K;L;M;N;O;P;Q;R;S;T;U;V;W;X;Y;Z&ejomvdmfcvmqP&omvdIC+qh+sx+AB+WC&vcDJ&vdCL*COOL*FREE*ID",
   "*NEW*NG*OK*SOS*yfzehbnm*VS*wyD*SECOND SCREEN*ybK*ibK*giK*hurapt*torapt*TWENTY-TWOrayb*upP",
   "*ptjyyaP*mfusmqD*HC*HDR*HI-RES*LOSSLESS*SHV*UHD*VOD&MASK WORKvw^1F1E6&REGIONALkivwmqA:B:C:D:E",
   ":F:G:H:I:J:K:L:M:N:O:P:Q:R:S:T:U:V:W:X:Y:Z&vcjtHOKA&vdllKOKO+sx",
   "^1F210*CJK UNIFIED IDEOGRAPH-624B,IDEOGRAPH-5B57,IDEOGRAPH-53CC*llDE",
   "*CJK UNIFIED IDEOGRAPH-4E8C,IDEOGRAPH-591A,IDEOGRAPH-89E3,IDEOGRAPH-5929,IDEOGRAPH-4EA4",
   ",IDEOGRAPH-6620,IDEOGRAPH-7121,IDEOGRAPH-6599,IDEOGRAPH-524D,IDEOGRAPH-5F8C,IDEOGRAPH-518D",
   ",IDEOGRAPH-65B0,IDEOGRAPH-521D,IDEOGRAPH-7D42,IDEOGRAPH-751F,IDEOGRAPH-8CA9,IDEOGRAPH-58F0",
   ",IDEOGRAPH-5439,IDEOGRAPH-6F14,IDEOGRAPH-6295,IDEOGRAPH-6355,IDEOGRAPH-4E00,IDEOGRAPH-4E09",
   ",IDEOGRAPH-904A,IDEOGRAPH-5DE6,IDEOGRAPH-4E2D,IDEOGRAPH-53F3,IDEOGRAPH-6307,IDEOGRAPH-8D70",
   ",IDEOGRAPH-6253,IDEOGRAPH-7981,IDEOGRAPH-7A7A,IDEOGRAPH-5408,IDEOGRAPH-6E80,IDEOGRAPH-6709",
   ",IDEOGRAPH-6708,IDEOGRAPH-7533,IDEOGRAPH-5272,IDEOGRAPH-55B6,IDEOGRAPH-914D",
   "^1F240&xltzBRACKETED CJK UNIFIED IDEOGRAPH-672C;IDEOGRAPH-4E09;IDEOGRAPH-4E8C;IDEOGRAPH-5B89",
   ";IDEOGRAPH-70B9;IDEOGRAPH-6253;IDEOGRAPH-76D7;IDEOGRAPH-52DD;IDEOGRAPH-6557",
   "^1F250&dnIDEOGRAPH ADVANTAGE+ACCEPT^1F260&stvwhxFU,LU,SHOU,XI,SHUANGXI,CAI^1F300&CYCLONE&FOGGY",
   "&dsUMBRELLA&NIGHTzeSTARS&SUNRISEqcMOUNTAINS&SUNRISE&CITYSCAPE AT DUSK&SUNSETqcBUILDINGS",
   "&RAINBOW&BRIDGE AT NIGHT&yyyz&VOLCANO&MILKY WAY&geGLOBE EUROPE-AFRICA+AMERICAS+ASIA-AUSTRALIA",
   "&GLOBEzeMERIDIANS&NEWnzvw&WAXINGegnzvw&FIRSTrqnzvw&WAXING GIBBOUSnzvw&ifnzvw",
   "&WANING GIBBOUSnzvw&LASTrqnzvw&WANINGegnzvw&egnz&NEWnzzehh&FIRSTrqnzzehh&LASTrqnzzehh&ifnzzehh",
   "&SUNzehh&GLOWINGvf&SHOOTINGvf&THERMOMETER&cgDROPLET&zdSUN+zeusCLOUD+BEHIND CLOUD:zeRAIN",
   "&CLOUDzeRAIN+SNOW+LIGHTNING+TORNADO&FOG&WIND BLOWINGhh&HOT DOG&TACO&BURRITO&CHESTNUT&SEEDLING",
   "&EVERGREEN TREE&DECIDUOUS TREE&PALM TREE&CACTUS&HOT PEPPER&TULIP&CHERRY BLOSSOM&ROSE&HIBISCUS",
   "&SUNFLOWER&BLOSSOM&EARpnMAIZE+RICE&HERB&ibmgCLOVER&MAPLEmg&FALLENmg&mgFLUTTERINGkfWIND",
   "&MUSHROOM&TOMATO&AUBERGINE&GRAPES&MELON&WATERMELON&TANGERINE&LEMON&BANANA&PINEAPPLE&RED APPLE",
   "&GREEN APPLE&PEAR&PEACH&CHERRIES&STRAWBERRY&HAMBURGER&SLICEpnPIZZA&MEATpsBONE&POULTRYmm",
   "&RICE CRACKER*br&COOKED RICE&CURRYasRICE&STEAMING BOWL&SPAGHETTI&BREAD&FRENCH FRIES",
   "&ROASTED SWEET POTATO&DANGO&ODEN&SUSHI&FRIED SHRIMP&FISH CAKEzeSWIRL DESIGN&uuICE CREAM",
   "&SHAVED ICE&ICE CREAM&DOUGHNUT&COOKIE&CHOCOLATEbt&CANDY&LOLLIPOP&CUSTARD&HONEY POT&SHORTCAKE",
   "&BENTOcl&POTpnFOOD&COOKING&FORKasKNIFE&TEACUP WITHOUT HANDLE&SAKE BOTTLEasCUP&WINE GLASS",
   "&COCKTAIL GLASS&TROPICAL DRINK&BEER MUG&CLINKING BEER MUGS&BABY BOTTLE&FORKasKNIFEzePLATE",
   "&BOTTLEzePOPPING CORK&POPCORN&RIBBON&WRAPPED PRESENT&BIRTHDAY CAKE&JACK-O-LANTERN",
   "&CHRISTMAS TREE&FATHER CHRISTMAS&FIREWORKS&FIREWORK SPARKLER&BALLOON&PARTY POPPER&CONFETTIbr",
   "&TANABATA TREE&ejFLAGS&PINE DECORATION&laDOLLS&CARP STREAMER&WIND CHIME&nzVIEWING CEREMONY",
   "&SCHOOL SATCHEL&GRADUATION CAP&jmzeTIPpswnmh&BOUQUETpnFLOWERS&MILITARY MEDAL&REMINDER RIBBON",
   "&ojKEYBOARDzeJACKS&STUDIO MICROPHONE&LEVEL SLIDER&edKNOBS&BEAMED ASCENDINGojNOTES",
   "*DESCENDINGojNOTES&FILM FRAMES&ADMISSION TICKETS&CAROUSEL HORSE&FERRIS WHEEL&ROLLER COASTER",
   "&FISHING POLEasFISH&MICROPHONE&MOVIE CAMERA&CINEMA&HEADPHONE&ARTIST PALETTE&xkHAT&CIRCUS TENT",
   "&TICKET&CLAPPER BOARD&PERFORMING ARTS&VIDEO GAME&DIRECT HIT&SLOT MACHINE&BILLIARDS&GAME DIE",
   "&BOWLING&FLOWER PLAYING CARDS&ojpc&ogojNOTES&SAXOPHONE&GUITAR&ojKEYBOARD&TRUMPET&VIOLIN",
   "&ojSCORE&RUNNING SHIRTzeSASH&TENNIS RACQUETasbr&SKIasSKI BOOT&BASKETBALLasHOOP&CHEQUEREDhv",
   "&SNOWBOARDER&RUNNER&SURFER&SPORTS MEDAL&TROPHY&HORSE RACING&AMERICAN FOOTBALL&RUGBY FOOTBALL",
   "&SWIMMER&WEIGHT LIFTER&GOLFER&RACING MOTORCYCLE*CAR&CRICKET BATasbr&VOLLEYBALL",
   "&FIELD HOCKEY STICKasbr&ICE HOCKEY STICKasPUCK&TABLE TENNIS PADDLEasbr&SNOW CAPPEDoa&CAMPING",
   "&BEACHzeUMBRELLA&BUILDING CONSTRUCTION&HOUSE BUILDINGS&CITYSCAPE&DERELICT HOUSE BUILDING",
   "&CLASSICAL BUILDING&DESERT*ISLAND&NATIONAL PARK&STADIUM&HOUSE BUILDING*zeGARDEN",
   "&OFFICE BUILDING&laPOST OFFICE&EUROPEAN POST OFFICE&HOSPITAL&BANK&AUTOMATED TELLER MACHINE",
   "&HOTEL&LOVE HOTEL&CONVENIENCE STORE&SCHOOL&DEPARTMENT STORE&FACTORY&IZAKAYA LANTERN&laCASTLE",
   "&EUROPEAN CASTLE&zdPENNANT&cgPENNANT&WAVINGzdhv*cghv&ROSETTE&cgROSETTE&LABEL",
   "&BADMINTON RACQUETasSHUTTLECOCK&BOWasbd&AMPHORA&EMOJInxFITZPATRICK TYPE-1-2,TYPE-3,TYPE-4",
   ",TYPE-5,TYPE-6&RAT&MOUSE&OX&yyBUFFALO&COW&TIGER&LEOPARD&RABBIT&CAT&gd&CROCODILE&WHALE&SNAIL",
   "&SNAKE&HORSE&RAM&GOAT&SHEEP&MONKEY&ROOSTER&CHICKEN&DOG&PIG&BOAR&ELEPHANT&OCTOPUS&SPIRALtz&BUG",
   "&ANT&HONEYBEE&LADY BEETLE&FISH&TROPICAL FISH&BLOWFISH&TURTLE&HATCHING CHICK&BABY CHICK",
   "&FRONT-FACING BABY CHICK&BIRD&PENGUIN&KOALA&POODLE&DROMEDARY CAMEL&BACTRIAN CAMEL&DOLPHIN",
   "&MOUSEhh&COWhh&TIGERhh&RABBIThh&CAThh&gdhh&SPOUTING WHALE&HORSEhh&MONKEYhh&DOGhh&PIGhh&FROGhh",
   "&HAMSTERhh&WOLFhh&BEARhh&PANDAhh&PIG NOSE&PAW PRINTS&CHIPMUNK&hf&EYE&EAR&NOSE&ob&TONGUE",
   "&zdyfrcbokh*garcbokh*mhrcbokh*sgrcbokh&FISTEDjauh&WAVINGjauh&OKjauh&THUMBSyfuh*gauh",
   "&CLAPPING HANDSuh&pvHANDSuh&CROWN&WOMANS HAT&EYEGLASSES&NECKTIE&T-SHIRT&JEANS&DRESS&KIMONO",
   "&BIKINI&WOMANS CLOTHES&PURSE&HANDBAG&POUCH&MANS SHOE&ATHLETIC SHOE&HIGH-HEELED SHOE",
   "&WOMANS SANDAL*BOOTS&FOOTPRINTS&BUSTkfSILHOUETTE&BUSTSkfSILHOUETTE&BOY&GIRL&nl&WOMAN&FAMILY",
   "&nlasWOMAN HOLDING HANDS&ybMEN HOLDING HANDS*WOMEN HOLDING HANDS&POLICE OFFICER",
   "&WOMANzeBUNNY EARS&BRIDEzeVEIL&qszeBLOND HAIR&nlzeGUAqwMAO+TURBAN&OLDERnl*WOMAN&BABY",
   "&CONSTRUCTION WORKER&PRINCESS&laOGRE*GOBLIN&GHOST&BABY ANGEL&EXTRATERRESTRIAL ALIEN",
   "&ALIEN MONSTER&IMP&SKULL&kkDESKqs&GUARDSMAN&DANCER&LIPSTICK&NAIL POLISH&hhMASSAGE&HAIRCUT",
   "&BARBER POLE&SYRINGE&PILL&KISSnm&LOVEmq&sm&GEM STONE&KISS&BOUQUET&COUPLEzejm&WEDDING&BEATINGjm",
   "&BROKENjm&ybjn&SPARKLINGjm&GROWINGjm&jmzebd&BLUEjm&GREENjm&YELLOWjm&PURPLEjm&jmzeRIBBON",
   "&REVOLVINGjn&jmDECORATION&flSHAPEzeAftkm&ELECTRICmsBULB&ANGERvw&BOMB&SLEEPINGvw&COLLISIONvw",
   "&SPLASHING SWEATvw&DROPLET&eyvw&PILEpnPOO&FLEXED BICEPS&DIZZYvw&SPEECH BALLOON&THOUGHT BALLOON",
   "&zdFLOWER&jyPOINTSvw&MONEY BAG&CURRENCY EXCHANGE&joDOLLARuh&CREDIT CARD&BANKNOTEzeYENuh",
   "+DOLLARuh+EUROuh+POUNDuh&MONEYzeWINGS&CHARTzeykTRENDasYENuh&SEAT&PERSONAL COMPUTER&BRIEFCASE",
   "&MINIDISC&FLOPPY DISK&OPTICAL DISC&DVD&FILE FOLDER&pvFILE FOLDER&PAGEzeen*FACINGyf&CALENDAR",
   "&TEAR-OFF CALENDAR&CARDkh&CHARTzeykTREND+gcTREND&btCHART&CLIPBOARD&PUSHPIN&ssPUSHPIN&PAPERCLIP",
   "&viRULER&xpRULER&BOOKMARK TABS&LEDGER&NOTEBOOK*zeDECORATIVE COVER&dsBOOK&pvBOOK&GREEN BOOK",
   "&BLUE BOOK&ORANGE BOOK&BOOKS&NAME BADGE&SCROLL&MEMO&wjRECEIVER&PAGER&FAX MACHINE",
   "&SATELLITE ANTENNA&PUBLIC ADDRESS LOUDSPEAKER&CHEERING MEGAPHONE&OUTBOX TRAY&INBOX TRAY",
   "&PACKAGE&E-MAILvw&INCOMINGgs&gszegcbdad&dsMAILBOXzeLOWEREDhv,rwhv&pvMAILBOXzerwhv,LOWEREDhv",
   "&POSTBOX&POSTALjx&NEWSPAPER&MOBILE PHONE+zeslbdATmh&VIBRATION MODE&MOBILE PHONE OFF",
   "&ovMOBILE PHONES&ANTENNAzeBARS&CAMERA*zeFLASH&VIDEO CAMERA&TELEVISION&RADIO&VIDEOCASSETTE",
   "&FILM PROJECTOR&PORTABLE STEREO&PRAYER BEADS&TWISTEDslbf&drslasmlpvdmbf=zednptqe*gcasykpvdmbf",
   "&augcasykpvdmbf&nbBRIGHTNESSvw&jrBRIGHTNESSvw&SPEAKERzecsvj&SPEAKER*zeptuwyz+wyuwWAVES&BATTERY",
   "&ELECTRIC PLUG&miMAGNIFYING GLASS&siMAGNIFYING GLASS&LOCKzeINK PEN&dsLOCKzeKEY&KEY&LOCK&pvLOCK",
   "&BELL*zecsvj&BOOKMARK&LINKvw&RADIO BUTTON&bnzemlbdad&grzemlbdad&pszehbnmzemhsgbdad",
   "&SOONzeslbdad&xkzeykbdad&ovptUNDERgjvw&KEYCAPwk&INPUTvwhxmfcvLETTERS:usLETTERS,NUMBERS,SYMBOLS",
   ",mfLETTERS&FIRE&ELECTRIC TORCH&WRENCH&HAMMER&NUTasBOLT&HOCHO&PISTOL&MICROSCOPE&TELESCOPE",
   "&CRYSTALbr&umrbvfzentft&lavwhxBEGINNER&TRIDENT EMBLEM&cgvcBUTTON&zdvcBUTTON&mdREDdm*BLUEdm",
   "*ORANGEfl*BLUEfl&usORANGEfl*BLUEfl&ygREDxn&gbREDxn&ygusREDxn&gbusREDxn&ncsgtuzddm&yisgtuzddm",
   "&dneiPOMMEE&eiPOMMEEzeHALF-CIRCLEbx*POMMEE&pbmhtkzewyfv*sgtkzewyfv&vwhxMARKS CHAPTER&zdmfei",
   "&jomfei&CELTICei&OMvw&DOVEpnPEACE&KAABA&MOSQUE&SYNAGOGUE&MENORAHzeorBRANCHES&BOWLpnHYGIEIA",
   "&CLOCKhhptpl+ybpl+wypl+ibpl+hupl+umpl+topl+gipl+orpl+wkpl+gopl+xzpl+ONE-THIRTY+TWO-THIRTY",
   "+THREE-THIRTY+FOUR-THIRTY+FIVE-THIRTY+SIX-THIRTY+SEVEN-THIRTY+EIGHT-THIRTY+NINE-THIRTY",
   "+TEN-THIRTY+ELEVEN-THIRTY+TWELVE-THIRTY&sgSPEAKER+zeptuwyz,wyuwWAVES&BULLHORN*zeuwWAVES",
   "&RINGING BELL&BOOK&CANDLE&MANTELPIECE CLOCK&cgSKULLasCROSSBONES&ovPIRACY&HOLE",
   "&nlkfBUSINESS SUIT LEVITATING&SLEUTHpySPY&DARK SUNGLASSES&SPIDER*WEB&JOYSTICK&nlDANCING",
   "&mhjawjRECEIVER&wjRECEIVERzePAGE&sgjawjRECEIVER&zdTOUCHTONEwj&cgTOUCHTONEwj&wjpsxkpnMODEM",
   "&CLAMSHELL MOBILE PHONE&bnpngs&STAMPEDgs&gszeLIGHTNING&FLYINGgs&PENqcSTAMPEDgs",
   "&LINKED PAPERCLIPS&cgPUSHPIN&ncmhPENCIL+BALLPOINT PEN+FOUNTAIN PEN+PAINTBRUSH+CRAYON",
   "&mhWRITINGja&xwOKjauh&rwjazehsSPLAYED&sdrwjazehsSPLAYED*THUMBSyfuh+gauh*VICTORYja*jazenthrhc",
   "&rwjazePARTccntassmhs&zdgarcmhjakh&ufzdmhrckh+sgrckh*cgmhrckh+sgrckh&cgmhrcbokh*sgrcbokh",
   "&ufzdyfrckh+garckh*cgyfrckh+garckh&cgyfrcbokh*garcbokh*jm&DESKTOP COMPUTER&KEYBOARDasMOUSE",
   "&wyNETWORKED COMPUTERS&PRINTER&POCKET CALCULATOR&cgHARDtzFLOPPY DISK&zdHARDtzFLOPPY DISK",
   "&uutzFLOPPY DISK&TAPE CARTRIDGE&WIRED KEYBOARD&ptBUTTON MOUSE&ybBUTTON MOUSE&wyBUTTON MOUSE",
   "&TRACKBALL&ppPERSONAL COMPUTER&HARD DISK&SCREEN&PRINTER ICON&FAX ICON&OPTICAL DISC ICON",
   "&DOCUMENTzeTEXT,asPICTURE+PICTURE&FRAMEzePICTURE+TILES+arX&cgFOLDER&FOLDER&pvFOLDER",
   "&CARDkhDIVIDERS*FILEcl&FILE CABINET&EMPTYpc+PAGE+PAD&pc*PAGE*PAD&EMPTY DOCUMENT*PAGE*PAGES",
   "&DOCUMENT&PAGE&PAGES&WASTEBASKET&SPIRALpcPAD*CALENDAR PAD&DESKTOP WINDOW&MINIMIZE&MAXIMIZE",
   "&OVERLAP&drsgasmhtkbf&csX&INCREASE FONT SIZEvw&DECREASE FONT SIZEvw&COMPRESSION&ppKEY",
   "&ROLLED-UP NEWSPAPER&PAGEzednTEXT&STOCK CHART&DAGGER KNIFE&LIPS&SPEAKINGjlkfSILHOUETTE",
   "&wyRAYSad+bx+mh+sg&mhSPEECHco&sgSPEECHco&ybSPEECH BUBBLES&wySPEECH BUBBLES&mhTHOUGHTco",
   "&sgTHOUGHTco&mhANGERco&sgANGERco&MOODco&LIGHTNING MOODco*MOOD&BALLOTclzeBALLOT*tgX*clzetgX",
   "*cjtgX*clzecjtgX&msdinm&BALLOTclzecjdi&WORLD MAP&MOUNT FUJI&TOKYO TOWER&STATUEpnLIBERTY",
   "&SILHOUETTEpnJAPAN&MOYAI&GRINNINGhh+zeuthf&hhzeTEARSpnJOY&uthhzepvob;asuthf<COLD SWEAT",
   "<TIGHTLY-CLOSEDhf,HALO,HORNS&WINKINGhh&uthhzeuthf&hhSAVOURING DELICIOUS FOOD&RELIEVEDhh",
   "&uthhzeHEART-SHAPEDhf,SUNGLASSES&SMIRKINGhh&ophh&EXPRESSIONLESShh&UNAMUSEDhh&hhzeCOLD SWEAT",
   "&PENSIVEhh&CONFUSEDhh&CONFOUNDEDhh&KISSINGhh&hhTHROWING A KISS&KISSINGhhzeuthf,dshf",
   "&hhzeSTUCK-OUT TONGUE:asWINKING EYE;TIGHTLY-CLOSEDhf&DISAPPOINTEDhh&WORRIEDhh&ANGRYhh",
   "&POUTINGhh&CRYINGhh&PERSEVERINGhh&hhzeLOOKpnTRIUMPH&DISAPPOINTED BUT RELIEVEDhh",
   "&FROWNINGhhzepvob&ANGUISHEDhh&FEARFULhh&WEARYhh&SLEEPYhh&TIREDhh&GRIMACINGhh&LOUDLY CRYINGhh",
   "&hhzepvob&HUSHEDhh&hhzepvobasCOLD SWEAT*SCREAMINGkfFEAR&ASTONISHEDhh&FLUSHEDhh&SLEEPINGhh",
   "&DIZZYhh&hhWITHOUTob*zeMEDICAL MASK&GRINNING CAThhzeuthf&CAThhzeTEARSpnJOY&utCAThhzepvob",
   ":HEART-SHAPEDhf&CAThhzeWRY SMILE&KISSING CAThhzedshf&POUTING CAThh&CRYING CAThh&WEARY CAThh",
   "&SLIGHTLY FROWNINGhh*uthh&UPSIDE-DOWNhh&hhzeROLLINGhf+ovGOOD GESTURE+OK GESTURE",
   "&qsBOWING DEEPLY&SEE-NO-EVIL MONKEY&HEAR-NO-EVIL MONKEY&SPEAK-NO-EVIL MONKEY",
   "&HAPPYqsRAISINGptja&qsRAISING BOTH HANDSkfCELEBRATION*FROWNING*zePOUTINGhh+FOLDED HANDS",
   "&oyzbrcmg&uxzbrcmg&oygfrcmg&uxgfrcmg&xwoyzbrcmg*uxzbrcmg*oygfrcmg*uxgfrcmg&oyzbrcVINEmg",
   "&uxzbrcVINEmg&oygfrcVINEmg&uxgfrcVINEmg&jooyzbrcVINEmg*uxzbrcVINEmg*oygfrcVINEmg*uxgfrcVINEmg",
   "&oyzbrcBUD&uxzbrcBUD&oygfrcBUD&uxgfrcBUD&jooyzbrcBUD*uxzbrcBUD*oygfrcBUD*uxgfrcBUD",
   "&HOLLOW QUILTvcqa:kfcgvc&SOLID QUILTvcqa:kfcgvc&mlROCKET&ykROCKET&slROCKET&gcROCKET&tgmrETqa",
   "&jotgmrETqa&mrpvETqa&jomrpvETqa*aqqa&SWASHaqqa&tcjofxxwdwrunmqa,dwrunmqa+nbfxdwrunmqa&jokpqa",
   "&tckpqa&jotckpqa&yrjouv+scuv&CHECKER BOARD&scCHECKER BOARD&ROCKET&HELICOPTER&STEAM LOCOMOTIVE",
   "&RAILWAY CAR&HIGH-SPEED TRAIN+zecpNOSE&TRAIN&METRO&msRAIL&STATION&TRAM*CAR&BUS&ONCOMING BUS",
   "&TROLLEYBUS&BUSvh&MINIBUS&AMBULANCE&FIRE ENGINE&POLICE CAR&ONCOMING POLICE CAR&TAXI",
   "&ONCOMING TAXI&AUTOMOBILE&ONCOMING AUTOMOBILE&RECREATIONAL VEHICLE&DELIVERY TRUCK",
   "&ARTICULATED LORRY&TRACTOR&MONORAIL&oaRAILWAY&SUSPENSION RAILWAY&oaCABLEWAY&AERIAL TRAMWAY",
   "&SHIP&ROWBOAT&SPEEDBOAT&jwTRAFFICms&ypTRAFFICms&CONSTRUCTIONuh&POLICE CARS REVOLVINGms",
   "&xphvpsPOST&DOOR&ovENTRYuh&SMOKINGvw&ovSMOKINGvw&PUT LITTERkfITS PLACEvw&DOozLITTERvw",
   "&POTABLEyyvw&NON-POTABLEyyvw&BICYCLE&ovBICYCLES&BICYCLIST&oaBICYCLIST&PEDESTRIAN&ovPEDESTRIANS",
   "&CHILDRENel&MENSvw&WOMENSvw&RESTROOM&BABYvw&TOILET&yyCLOSET&SHOWER&BATH&BATHTUB&PASSPORTed",
   "&CUSTOMS&BAGGAGE CLAIM&mhLUGGAGE&xnzestCORNERS&PROHIBITEDuh&dnkkSOURCE&BOYSvw&GIRLSvw",
   "&COUCHasLAMP&SLEEPING ACCOMMODATION&SHOPPING BAGS&BELLHOP BELL&BED&PLACEpnWORSHIP&OCTAGONALuh",
   "&SHOPPING TROLLEY&STUPA&PAGODA&HINDU TEMPLE&HUT&ELEVATOR^1F6DD&PLAYGROUND SLIDE&WHEEL&smBUOY",
   "&HAMMERasWRENCH&SHIELD&OIL DRUM&MOTORWAY&RAILWAY TRACK&MOTOR BOAT&ygMILITARYai*ai*usai&usai",
   "&NORTHEAST-POINTINGai&aiDEPARTURE*ARRIVING^1F6F0&SATELLITE&ONCOMING FIRE ENGINE",
   "&DIESEL LOCOMOTIVE&PASSENGER SHIP&SCOOTER&MOTOR SCOOTER&CANOE&SLED&FLYING SAUCER&SKATEBOARD",
   "&AUTO RICKSHAW&PICKUP TRUCK&ROLLER SKATE^1F700&ALCHEMICALvwhxQUINTESSENCE,AIR,FIRE,ge,yy",
   ",AQUAFORTIS,AQUA REGIA:REGIA-2:VITAE:VITAE-2,VINEGAR,VINEGAR-2,VINEGAR-3,SULFUR",
   ",PHILOSOPHERS SULFUR,cgSULFUR,MERCURY SUBLIMATE:SUBLIMATE-2:SUBLIMATE-3,CINNABAR,SALT,NITRE",
   ",VITRIOL,VITRIOL-2,ROCK SALT:SALT-2,GOLD,SILVER,IRON ORE:ORE-2,CROCUSpnIRON,REGULUSpnIRON",
   ",COPPER ORE,IRON-COPPER ORE,SUBLIMATEpnCOPPER,CROCUSpnCOPPER;COPPER-2,COPPER ANTIMONIATE",
   ",SALTpnCOPPER ANTIMONIATE,SUBLIMATEpnSALTpnCOPPER,VERDIGRIS,TIN ORE,LEAD ORE,avORE",
   ",SUBLIMATEpnav,SALTpnav,SUBLIMATEpnSALTpnav,VINEGARpnav,REGULUSpnav;ANTIMONY-2,REGULUS",
   ",REGULUS-2,REGULUS-3,REGULUS-4,ALKALI,ALKALI-2,MARCASITE,SAL-AMMONIAC,ARSENIC,REALGAR",
   ",REALGAR-2,AURIPIGMENT,BISMUTH ORE,TARTAR,TARTAR-2,QUICK LIME,BORAX,BORAX-2,BORAX-3,ALUM,OIL",
   ",SPIRIT,TINCTURE,GUM,WAX,POWDER,CALX,TUTTY,CAPUT MORTUUM,SCEPTERpnJOVE,CADUCEUS,TRIDENT",
   ",STARRED TRIDENT,LODESTONE,SOAP,URINE,HORSE DUNG,ASHES,POT ASHES,BRICK,POWDERED BRICK,AMALGAM",
   ",STRATUM SUPER STRATUM;STRATUM-2,SUBLIMATION,PRECIPITATE,DISTILL,DISSOLVE,DISSOLVE-2,PURIFY",
   ",PUTREFACTION,CRUCIBLE,CRUCIBLE-2,CRUCIBLE-3,CRUCIBLE-4,CRUCIBLE-5,ALEMBIC,BATHpnMARY;VAPOURS",
   ",RETORT,HOUR,NIGHT,DAY-NIGHT,MONTH,iyDRAM:OUNCE^1F780&cgmiISOSCELESsgxn*ygISOSCELESsgxn",
   "*siISOSCELESsgxn*gbISOSCELESsgxn*SLIGHTLYusdm&nqcjzddm&cjzddm&jozddm&yrjozddm&hejozddm",
   "&zddmebcgusdm&ssTARGET&cgTINYvc*SLIGHTLYusvc&mszdvc&nqzdvc&cjzdvc&jozdvc&yrjozdvc&hejozdvc",
   "&zdvcebcgyrusvc:nqvc&vcTARGET&cgTINYfl*yrusfl*nqusfl&zdflebcgyrusfl:nqfl&flTARGET&cgTINYnd",
   "*yrusnd*nqusnd&zdndebcgusnd&THINitei&msitei&nqitei&cjitei&yrcjitei*joitei&hejoitei&THINta&msta",
   "&nqta&cjta&jota&yrjota&hejota&mshuvabh&nqhuvabh&cjhuvabh&johuvabh&yrjohuvabh&hejohuvabh",
   "&msumvabh&nqumvabh&cjumvabh&joumvabh&yrjoumvabh&hejoumvabh&msgivabh&nqgivabh&cjgivabh&jogivabh",
   "&yrjogivabh&mswyrbcgvf&nqwyrbcgvf&wyrbcgvf&nqwyrbqxvf&msibrbcgvf&nqibrbcgvf&ibrbcgvf",
   "&nqibrbqxvf&scmsibrbqxvf&mshurbcgvf&johurbcgvf&nqumrbcgvf&joumrbcgvf&umrbqxvf&nqgirbcgvf",
   "&jogirbcgvf&yrjogirbcgvf&jogirbqxvf&msxzrbcgvf&joxzrbcgvf,qxvf&dnxn&omdnxn&dnvc&omdnvc",
   "^1F7E0&mdORANGEdm*YELLOWdm*GREENdm*PURPLEdm*BROWNdm*REDvc*BLUEvc*ORANGEvc*YELLOWvc*GREENvc",
   "*PURPLEvc*BROWNvc^1F7F0&jogvuh^1F800&mlbdzeusxnbe&ykbdzeusxnbe&slbdzeusxnbe&gcbdzeusxnbe",
   "&mlbdzenqxnbe&ykbdzenqxnbe&slbdzenqxnbe&gcbdzenqxnbe&mlbdzemdxnbe&ykbdzemdxnbe&slbdzemdxnbe",
   "&gcbdzemdxnbe^1F810&mlbdzeusgxbe&ykbdzeusgxbe&slbdzeusgxbe&gcbdzeusgxbe&mlbdzegxbe&ykbdzegxbe",
   "&slbdzegxbe&gcbdzegxbe&jomlbdzegxbe*ykbdzegxbe*slbdzegxbe*gcbdzegxbe*mlbdzemdgxbe*ykbdzemdgxbe",
   "*slbdzemdgxbe*gcbdzemdgxbe&mlxobdzeNARROWtv&ykxobdzeNARROWtv&slxobdzeNARROWtv&gcxobdzeNARROWtv",
   "&mlxobdzenqtv&ykxobdzenqtv&slxobdzenqtv&gcxobdzenqtv&mlxobdzecjtv&ykxobdzecjtv&slxobdzecjtv",
   "&gcxobdzecjtv&mlxobdzejotv&ykxobdzejotv&slxobdzejotv&gcxobdzejotv&mlxobdzeyrjotv",
   "&ykxobdzeyrjotv&slxobdzeyrjotv&gcxobdzeyrjotv&mlFINGER-POSTbd&ykFINGER-POSTbd&slFINGER-POSTbd",
   "&gcFINGER-POSTbd&mlvdbd&ykvdbd&slvdbd&gcvdbd&mldybd&ykdybd&sldybd&gcdybd&mljodybd&ykjodybd",
   "&sljodybd&gcjodybd&mljobd&ykjobd&sljobd&gcjobd^1F850&mltcbd&yktcbd&sltcbd&gctcbd&oyzbtcbd",
   "*gftcbd&uxgftcbd*zbtcbd&mhsgtcbd&yfgatcbd^1F860&WIDE-HEADEDmlmsbubd*ykmsbubd*slmsbubd*gcmsbubd",
   "*oyzbmsbubd+gfmsbubd*uxgfmsbubd+zbmsbubd*mlbubd*ykbubd*slbubd*gcbubd*oyzbbubd+gfbubd*uxgfbubd",
   "+zbbubd*mlnqbubd*yknqbubd*slnqbubd*gcnqbubd*oyzbnqbubd+gfnqbubd*uxgfnqbubd+zbnqbubd*mljobubd",
   "*ykjobubd*sljobubd*gcjobubd*oyzbjobubd+gfjobubd*uxgfjobubd+zbjobubd*mlyrjobubd*ykyrjobubd",
   "*slyrjobubd*gcyrjobubd*oyzbyrjobubd+gfyrjobubd*uxgfyrjobubd+zbyrjobubd^1F890&mlxnbe&ykxnbe",
   "&slxnbe&gcxnbe&mlzdbdWITHINxnbe&ykzdbdWITHINxnbe&slzdbdWITHINxnbe&gczdbdWITHINxnbe&mlbdzepbwb",
   "&ykbdzepbwb&slbdzepbwb&gcbdzepbwb&jobdtvWIDTHpt:ybwt:ptiy;ws&mlBOTTOM-SHADEDzdbd",
   "&slckSHADEDzdbd&mlxkSHADEDzdbd&slxkSHADEDzdbd&mlLEFT-SHADEDzdbd&slRIGHT-SHADEDzdbd",
   "&mlRIGHT-SHADEDzdbd&slLEFT-SHADEDzdbd&mlBACK-TILTEDtuzdbd&slBACK-TILTEDtuzdbd",
   "&mlFRONT-TILTEDtuzdbd&slFRONT-TILTEDtuzdbd&zdbdtvWIDTHpt:ybwt^1F8B0&bdrcykTHENoyzb",
   "+slTHEN CURVINGuxzb^1F900&dneiFORMEEzeibfv:ybfv+FORMEE&mhiydmzeibfv:wyfv:ybfv:ft+dm",
   "&DOWNWARD FACINGjv+pbjv+jvzeft+pbjvzeft&PINCHEDhs&zdjm&BROWNjm&PINCHINGja&ZIPPER-MOUTHhh",
   "&MONEY-MOUTHhh&hhzeTHERMOMETER&NERDhh&THINKINGhh&hhzeHEAD-BANDAGE&ROBOThh&HUGGINGhh",
   "&uhpnwnHORNS&CALL MEja&rwbnpnja&LEFT-FACING FIST&shFIST&HANDSHAKE&jazekhasnthsej",
   "&I LOVE YOUjauh&hhzeCOWBOY HAT&CLOWNhh&NAUSEATEDhh&ROLLINGpswnhwLAUGHING&DROOLINGhh&LYINGhh",
   "&hhPALM&SNEEZINGhh&hhzeptEYEBROWrw&GRINNINGhhzevfhf,ptmdasptusEYE&hhzehrCOVERINGdsLIPS",
   "&SERIOUShhzeSYMBOLS COVERINGob&uthhzeuthfasjaCOVERINGob&hhzepvobVOMITING",
   "&SHOCKEDhhzeEXPLODINGjl&PREGNANT WOMAN&BREAST-FEEDING&PALMSyfTOGETHER&SELFIE&PRINCE&nlkfTUXEDO",
   "&MOTHER CHRISTMAS&SHRUG&qsDOING CARTWHEEL&JUGGLING&FENCER&MODERN PENTATHLON&WRESTLERS&yyPOLO",
   "&HANDBALL&DIVING MASK&WILTED FLOWER&DRUMzeDRUMSTICKS&CLINKING GLASSES&TUMBLER GLASS&SPOON",
   "&GOAL NET&RIFLE&FIRST PLACE MEDAL&SECOND PLACE MEDAL&wsPLACE MEDAL&BOXING GLOVE",
   "&MARTIAL ARTS UNIFORM&CURLING STONE&LACROSSE STICKasbr&SOFTBALL&FLYING DISC&CROISSANT&AVOCADO",
   "&CUCUMBER&BACON&POTATO&CARROT&BAGUETTE BREAD&GREEN SALAD&SHALLOW PANpnFOOD&STUFFED FLATBREAD",
   "&EGG&GLASSpnMILK&PEANUTS&KIWIFRUIT&PANCAKES&DUMPLING&FORTUNE COOKIE&TAKEOUTcl&CHOPSTICKS",
   "&BOWLzeSPOON&CUPzeSTRAW&COCONUT&BROCCOLI&PIE&PRETZEL&CUTpnMEAT&SANDWICH&CANNED FOOD",
   "&LEAFY GREEN&MANGO&nzCAKE&BAGEL&uthhzeuthfaswyjn&YAWNINGhh&uthhzeTEAR&hhzePARTYjxasPARTY HAT",
   "+UNEVENhfasWAVYob&OVERHEATEDhh&FREEZINGhh&NINJA&DISGUISEDhh&hhHOLDINGbnTEARS*zePLEADINGhf&SARI",
   "&LAB COAT&GOGGLES&HIKING BOOT&FLAT SHOE&CRAB&LIONhh&SCORPION&TURKEY&UNICORNhh&EAGLE&DUCK&BAT",
   "&SHARK&OWL&FOXhh&BUTTERFLY&DEER&GORILLA&LIZARD&RHINOCEROS&SHRIMP&SQUID&GIRAFFEhh&ZEBRAhh",
   "&HEDGEHOG&SAUROPOD&T-REX&CRICKET&KANGAROO&LLAMA&PEACOCK&HIPPOPOTAMUS&PARROT&RACCOON&LOBSTER",
   "&MOSQUITO&MICROBE&BADGER&SWAN&MAMMOTH&DODO&SLOTH&OTTER&ORANGUTAN&SKUNK&FLAMINGO&OYSTER&BEAVER",
   "&BISON&SEAL&GUIDE DOG&PROBING CANE&EMOJI COMPONENT RED HAIR+eoHAIR+BALD+zdHAIR&BONE&mm&FOOT",
   "&TOOTH&SUPERHERO&SUPERVILLAIN&SAFETY VEST&EARzeHEARING AID&MOTORIZED WHEELCHAIR",
   "&MANUAL WHEELCHAIR&MECHANICAL ARM*mm&CHEESE WEDGE&CUPCAKE&SALT SHAKER&BEVERAGEcl&GARLIC&ONION",
   "&FALAFEL&WAFFLE&BUTTER&MATE DRINK&ICE CUBE&coTEA&TROLL&STANDINGqs&KNEELINGqs&DEAFqs",
   "&hhzeMONOCLE&ADULT&CHILD&OLDER ADULT&BEARDEDqs&qszeHEADSCARF*kfSTEAMY ROOM*CLIMBING",
   "*kfLOTUS POSITION&MAGE&FAIRY&VAMPIRE&MERPERSON&ELF&GENIE&ZOMBIE&BRAIN&ORANGEjm&BILLED CAP",
   "&SCARF&GLOVES&COAT&SOCKS&RED GIFTgs&FIRECRACKER&JIGSAW PUZZLE PIECE&TEST TUBE&PETRIfq",
   "&DNAfxHELIX&COMPASS&ABACUS&FIRE EXTINGUISHER&TOOLBOX&BRICK&MAGNET&LUGGAGE&LOTION BOTTLE",
   "&SPOOLpnTHREAD&brpnYARN&SAFETY PIN&TEDDY BEAR&BROOM&BASKET&ROLLpnPAPER&btpnSOAP&SPONGE&RECEIPT",
   "&NAZAR AMULET&opdjlr+rs+so+cf+lu+qp&zddjluspFORTY-FIVEfd&cgdjluspFORTY-FIVEfd",
   "&opdjluspFORTY-FIVEfd&zddjlrspotfd+rsspotfd+sospotfd+cfspotfd+luspotfd+qpspotfd&cgdjlrspotfd",
   "+rsspotfd+sospotfd+cfspotfd+luspotfd+qpspotfd&opdjlrspotfd+rsspotfd+sospotfd+cfspotfd+luspotfd",
   "+qpspotfd&zddjluspptjyTHIRTY-FIVEfd&cgdjluspptjyTHIRTY-FIVEfd&opdjluspptjyTHIRTY-FIVEfd",
   "&zddjxwlr,rs,so,cf,lu,qp&cgdjxwlr,rs,so,cf,lu,qp&opdjxwlr,rs,so,cf,lu,qp",
   "&zddjluspybjyTWENTY-FIVEfd&cgdjluspybjyTWENTY-FIVEfd&opdjluspybjyTWENTY-FIVEfd",
   "&zddjlrspybjytqfd+rsspybjytqfd+sospybjytqfd+cfspybjytqfd+luspybjytqfd+qpspybjytqfd",
   "&cgdjlrspybjytqfd+rsspybjytqfd+sospybjytqfd+cfspybjytqfd+luspybjytqfd+qpspybjytqfd",
   "&opdjlrspybjytqfd+rsspybjytqfd+sospybjytqfd+cfspybjytqfd+luspybjytqfd+qpspybjytqfd",
   "&zddjluspwyjyhmfd&cgdjluspwyjyhmfd&opdjluspwyjyhmfd&zddjgw&cgdjgw&opdjgw&zddjgwspotfd",
   "&cgdjgwspotfd&opdjgwspotfd&zddjKNIGHT-QUEEN+KNIGHT-ROOK+KNIGHT-BISHOP&cgdjKNIGHT-QUEEN",
   "+KNIGHT-ROOK+KNIGHT-BISHOP^1FA60&XIANGQI RED GENERAL+MANDARIN+ELEPHANT+HORSE+CHARIOT+CANNON",
   "+SOLDIER*cgGENERAL+MANDARIN+ELEPHANT+HORSE+CHARIOT+CANNON+SOLDIER^1FA70&BALLET SHOES",
   "&ONE-PIECE SWIMSUIT&BRIEFS&SHORTS&THONG SANDAL^1FA78&DROPpnBLOOD&ADHESIVE BANDAGE&STETHOSCOPE",
   "&X-RAY&CRUTCH^1FA80&YO-YO&KITE&PARACHUTE&BOOMERANG&MAGIC WAND&PINATA&NESTING DOLLS",
   "^1FA90&RINGED PLANET&CHAIR&RAZOR&AXE&DIYA LAMP&BANJO&MILITARY HELMET&ACCORDION&myDRUM&COIN",
   "&CARPENTRY SAW&SCREWDRIVER&LADDER&jv&MIRROR&WINDOW&PLUNGER&SEWING NEEDLE&KNOT&BUCKET",
   "&MOUSE TRAP&TOOTHBRUSH&HEADSTONE&PLACARD&ROCK&MIRRORbr&IDENTIFICATION CARD&nbBATTERY&HAMSA",
   "^1FAB0&FLY&WORM&BEETLE&COCKROACH&POTTED PLANT&WOOD&FEATHER&LOTUS&CORAL&EMPTY NEST&NESTzeEGGS",
   "^1FAC0&ANATOMICALjm&LUNGS&PEOPLE HUGGING&PREGNANTnl*qs&qszeCROWN^1FAD0&BLUEBERRIES&BELL PEPPER",
   "&OLIVE&FLATBREAD&TAMALE&FONDUE&TEAPOT&POURING LIQUID&BEANS&JAR^1FAE0&MELTINGhh&SALUTINGhh",
   "&hhzepvhfasjaqcob+PEEKING EYE+fiob&fwmthh&BITING LIP&BUBBLES^1FAF0&jazekhhrasxaej&slja&mlja",
   "&PALMgaja*yfja&khrcATwnVIEWER&jmHANDS^1FB00&ciSEXTANT-1*SEXTANT-2*SEXTANT-12*SEXTANT-3",
   "*SEXTANT-13*SEXTANT-23*SEXTANT-123*SEXTANT-4*SEXTANT-14*SEXTANT-24*SEXTANT-124*SEXTANT-34",
   "*SEXTANT-134*SEXTANT-234*SEXTANT-1234*SEXTANT-5*SEXTANT-15*SEXTANT-25*SEXTANT-125*SEXTANT-35",
   "*SEXTANT-235*SEXTANT-1235*SEXTANT-45*SEXTANT-145*SEXTANT-245*SEXTANT-1245*SEXTANT-345",
   "*SEXTANT-1345*SEXTANT-2345*SEXTANT-12345*SEXTANT-6*SEXTANT-16*SEXTANT-26*SEXTANT-126",
   "*SEXTANT-36*SEXTANT-136*SEXTANT-236*SEXTANT-1236*SEXTANT-46*SEXTANT-146*SEXTANT-1246",
   "*SEXTANT-346*SEXTANT-1346*SEXTANT-2346*SEXTANT-12346*SEXTANT-56*SEXTANT-156*SEXTANT-256",
   "*SEXTANT-1256*SEXTANT-356*SEXTANT-1356*SEXTANT-2356*SEXTANT-12356*SEXTANT-456*SEXTANT-1456",
   "*SEXTANT-2456*SEXTANT-12456*SEXTANT-3456*SEXTANT-13456*SEXTANT-23456&ncmhcifincntmhxencdc~sg",
   ":yintmhxencdc~sg;mhxencdc*sgcifiyintmhxeyidc~sg:ncntmhxeyidc~sg;mhxeyidc;ntmhxeyintsg",
   ";dcxencntsg;mhxencntsg;dcxeyintsg;mhxeyintsg;dcxeyisg*mhcifiyidcxeyintsg;mhxeyintsg;dcxencntsg",
   ";mhxencntsg;dcxencsg;ntmhxencntsg&yisgcifincntmhxencdc~sg:yintmhxencdc~sg;mhxencdc",
   "*mhcifiyintmhxeyidc~sg:ncntmhxeyidc~sg;mhxeyidc;ntmhxeyintsg;dcxencntsg;mhxencntsg;dcxeyintsg",
   ";mhxeyintsg;dcxeyisg*sgcifiyidcxeyintsg;mhxeyintsg;dcxencntsg;mhxencntsg;dcxencsg;ntmhxencntsg",
   "*assgasncxpwyrrci&mhasncassgxpwyrrci&yiasmhasncxpwyrrci&mhasyiassgxpwyrrci*xpptrqci&yixpptrqci",
   "&sgxpptrqci&ncxpptrqci&ypptgkBLOCK-2,BLOCK-3,BLOCK-4,BLOCK-5,BLOCK-6,BLOCK-7&jwptgkBLOCK-2",
   ",BLOCK-3,BLOCK-4,BLOCK-5,BLOCK-6,BLOCK-7&mhasncptgkci+yiptgkci&sgasyiptgkci+ncptgkci",
   "&yiasncptgkci&jwptgkBLOCK-1358&yiptrqci*wyglci*huglci*wyrrci*toglci&sgptrqci*wyglci*huglci",
   "*wyrrci*toglci&mhiynqtt&sgiynqtt&yiiynqtt&nciynqtt&krnqtt&yiiyciasnciykrnqtt+krnqttasnciyci",
   "^1FB94&mhiykrnqttassgiyci&CHECKER BOARDho&krCHECKER BOARDho&jojwho&yimhxencsgho*sgxencmhho",
   "*asncxpiyci&mhassgxpiyci&yimhxpnqtt*sgxpnqtt&ncsgxpnqtt*mhxpnqtt&clDRAWINGSmsfiyidcxentmh>sg",
   ":ntmhxencdc;sgxencdc:yidcxentmhxencdc>sgxencdc:ntmhxencdcxentsg=yidcxentsg",
   ":yidcxentmhasntsgxencdc>sgasntmhxencdc~xencdcxentmh>mhxencdcxentsg:ntmhxeyidcxentsgxencdc",
   ";sgxeyidcxentmhxencdc:fl,jwzeypvj&ARROWHEAD-SHAPED POINTER&krdinm&mhiyRUNNINGnl&sgiyRUNNINGnl",
   "&krgcbdzeTIPml&mlbdasyiasncptgkci&slbdasyiasncptgkci&gcbdassgptgkci&ykbdassgptgkci&mhiyFOLDER",
   "&sgiyFOLDER&VOIDEDitei&sgpvvdft&omfiei+ntsgxencdc+fl&zdjotazestCORNERS&mhwszdsgrckh",
   "&ntwszdsgrckh&sgwszdsgrckh&omvdrtnm&STICK FIGURE+zeARMSrw+LEANINGmh,sg+zeDRESS&zdygCHEVRON",
   "^1FBF0&SEGMENTEDfozw+pt+yb+wy+ib+hu+um+to+gi+or^2F800&CJK COMPATIBILITY IDEOGRAPH-2F800",
   "+IDEOGRAPH-2F801+IDEOGRAPH-2F802+IDEOGRAPH-2F803+IDEOGRAPH-2F804+IDEOGRAPH-2F805",
   "+IDEOGRAPH-2F806+IDEOGRAPH-2F807+IDEOGRAPH-2F808+IDEOGRAPH-2F809+IDEOGRAPH-2F80A",
   "+IDEOGRAPH-2F80B+IDEOGRAPH-2F80C+IDEOGRAPH-2F80D+IDEOGRAPH-2F80E+IDEOGRAPH-2F80F",
   "+IDEOGRAPH-2F810+IDEOGRAPH-2F811+IDEOGRAPH-2F812+IDEOGRAPH-2F813+IDEOGRAPH-2F814",
   "+IDEOGRAPH-2F815+IDEOGRAPH-2F816+IDEOGRAPH-2F817+IDEOGRAPH-2F818+IDEOGRAPH-2F819",
   "+IDEOGRAPH-2F81A+IDEOGRAPH-2F81B+IDEOGRAPH-2F81C+IDEOGRAPH-2F81D+IDEOGRAPH-2F81E",
   "+IDEOGRAPH-2F81F+IDEOGRAPH-2F820+IDEOGRAPH-2F821+IDEOGRAPH-2F822+IDEOGRAPH-2F823",
   "+IDEOGRAPH-2F824+IDEOGRAPH-2F825+IDEOGRAPH-2F826+IDEOGRAPH-2F827+IDEOGRAPH-2F828",
   "+IDEOGRAPH-2F829+IDEOGRAPH-2F82A+IDEOGRAPH-2F82B+IDEOGRAPH-2F82C+IDEOGRAPH-2F82D",
   "+IDEOGRAPH-2F82E+IDEOGRAPH-2F82F+IDEOGRAPH-2F830+IDEOGRAPH-2F831+IDEOGRAPH-2F832",
   "+IDEOGRAPH-2F833+IDEOGRAPH-2F834+IDEOGRAPH-2F835+IDEOGRAPH-2F836+IDEOGRAPH-2F837",
   "+IDEOGRAPH-2F838+IDEOGRAPH-2F839+IDEOGRAPH-2F83A+IDEOGRAPH-2F83B+IDEOGRAPH-2F83C",
   "+IDEOGRAPH-2F83D+IDEOGRAPH-2F83E+IDEOGRAPH-2F83F+IDEOGRAPH-2F840+IDEOGRAPH-2F841",
   "+IDEOGRAPH-2F842+IDEOGRAPH-2F843+IDEOGRAPH-2F844+IDEOGRAPH-2F845+IDEOGRAPH-2F846",
   "+IDEOGRAPH-2F847+IDEOGRAPH-2F848+IDEOGRAPH-2F849+IDEOGRAPH-2F84A+IDEOGRAPH-2F84B",
   "+IDEOGRAPH-2F84C+IDEOGRAPH-2F84D+IDEOGRAPH-2F84E+IDEOGRAPH-2F84F+IDEOGRAPH-2F850",
   "+IDEOGRAPH-2F851+IDEOGRAPH-2F852+IDEOGRAPH-2F853+IDEOGRAPH-2F854+IDEOGRAPH-2F855",
   "+IDEOGRAPH-2F856+IDEOGRAPH-2F857+IDEOGRAPH-2F858+IDEOGRAPH-2F859+IDEOGRAPH-2F85A",
   "+IDEOGRAPH-2F85B+IDEOGRAPH-2F85C+IDEOGRAPH-2F85D+IDEOGRAPH-2F85E+IDEOGRAPH-2F85F",
   "+IDEOGRAPH-2F860+IDEOGRAPH-2F861+IDEOGRAPH-2F862+IDEOGRAPH-2F863+IDEOGRAPH-2F864",
   "+IDEOGRAPH-2F865+IDEOGRAPH-2F866+IDEOGRAPH-2F867+IDEOGRAPH-2F868+IDEOGRAPH-2F869",
   "+IDEOGRAPH-2F86A+IDEOGRAPH-2F86B+IDEOGRAPH-2F86C+IDEOGRAPH-2F86D+IDEOGRAPH-2F86E",
   "+IDEOGRAPH-2F86F+IDEOGRAPH-2F870+IDEOGRAPH-2F871+IDEOGRAPH-2F872+IDEOGRAPH-2F873",
   "+IDEOGRAPH-2F874+IDEOGRAPH-2F875+IDEOGRAPH-2F876+IDEOGRAPH-2F877+IDEOGRAPH-2F878",
   "+IDEOGRAPH-2F879+IDEOGRAPH-2F87A+IDEOGRAPH-2F87B+IDEOGRAPH-2F87C+IDEOGRAPH-2F87D",
   "+IDEOGRAPH-2F87E+IDEOGRAPH-2F87F+IDEOGRAPH-2F880+IDEOGRAPH-2F881+IDEOGRAPH-2F882",
   "+IDEOGRAPH-2F883+IDEOGRAPH-2F884+IDEOGRAPH-2F885+IDEOGRAPH-2F886+IDEOGRAPH-2F887",
   "+IDEOGRAPH-2F888+IDEOGRAPH-2F889+IDEOGRAPH-2F88A+IDEOGRAPH-2F88B+IDEOGRAPH-2F88C",
   "+IDEOGRAPH-2F88D+IDEOGRAPH-2F88E+IDEOGRAPH-2F88F+IDEOGRAPH-2F890+IDEOGRAPH-2F891",
   "+IDEOGRAPH-2F892+IDEOGRAPH-2F893+IDEOGRAPH-2F894+IDEOGRAPH-2F895+IDEOGRAPH-2F896",
   "+IDEOGRAPH-2F897+IDEOGRAPH-2F898+IDEOGRAPH-2F899+IDEOGRAPH-2F89A+IDEOGRAPH-2F89B",
   "+IDEOGRAPH-2F89C+IDEOGRAPH-2F89D+IDEOGRAPH-2F89E+IDEOGRAPH-2F89F+IDEOGRAPH-2F8A0",
   "+IDEOGRAPH-2F8A1+IDEOGRAPH-2F8A2+IDEOGRAPH-2F8A3+IDEOGRAPH-2F8A4+IDEOGRAPH-2F8A5",
   "+IDEOGRAPH-2F8A6+IDEOGRAPH-2F8A7+IDEOGRAPH-2F8A8+IDEOGRAPH-2F8A9+IDEOGRAPH-2F8AA",
   "+IDEOGRAPH-2F8AB+IDEOGRAPH-2F8AC+IDEOGRAPH-2F8AD+IDEOGRAPH-2F8AE+IDEOGRAPH-2F8AF",
   "+IDEOGRAPH-2F8B0+IDEOGRAPH-2F8B1+IDEOGRAPH-2F8B2+IDEOGRAPH-2F8B3+IDEOGRAPH-2F8B4",
   "+IDEOGRAPH-2F8B5+IDEOGRAPH-2F8B6+IDEOGRAPH-2F8B7+IDEOGRAPH-2F8B8+IDEOGRAPH-2F8B9",
   "+IDEOGRAPH-2F8BA+IDEOGRAPH-2F8BB+IDEOGRAPH-2F8BC+IDEOGRAPH-2F8BD+IDEOGRAPH-2F8BE",
   "+IDEOGRAPH-2F8BF+IDEOGRAPH-2F8C0+IDEOGRAPH-2F8C1+IDEOGRAPH-2F8C2+IDEOGRAPH-2F8C3",
   "+IDEOGRAPH-2F8C4+IDEOGRAPH-2F8C5+IDEOGRAPH-2F8C6+IDEOGRAPH-2F8C7+IDEOGRAPH-2F8C8",
   "+IDEOGRAPH-2F8C9+IDEOGRAPH-2F8CA+IDEOGRAPH-2F8CB+IDEOGRAPH-2F8CC+IDEOGRAPH-2F8CD",
   "+IDEOGRAPH-2F8CE+IDEOGRAPH-2F8CF+IDEOGRAPH-2F8D0+IDEOGRAPH-2F8D1+IDEOGRAPH-2F8D2",
   "+IDEOGRAPH-2F8D3+IDEOGRAPH-2F8D4+IDEOGRAPH-2F8D5+IDEOGRAPH-2F8D6+IDEOGRAPH-2F8D7",
   "+IDEOGRAPH-2F8D8+IDEOGRAPH-2F8D9+IDEOGRAPH-2F8DA+IDEOGRAPH-2F8DB+IDEOGRAPH-2F8DC",
   "+IDEOGRAPH-2F8DD+IDEOGRAPH-2F8DE+IDEOGRAPH-2F8DF+IDEOGRAPH-2F8E0+IDEOGRAPH-2F8E1",
   "+IDEOGRAPH-2F8E2+IDEOGRAPH-2F8E3+IDEOGRAPH-2F8E4+IDEOGRAPH-2F8E5+IDEOGRAPH-2F8E6",
   "+IDEOGRAPH-2F8E7+IDEOGRAPH-2F8E8+IDEOGRAPH-2F8E9+IDEOGRAPH-2F8EA+IDEOGRAPH-2F8EB",
   "+IDEOGRAPH-2F8EC+IDEOGRAPH-2F8ED+IDEOGRAPH-2F8EE+IDEOGRAPH-2F8EF+IDEOGRAPH-2F8F0",
   "+IDEOGRAPH-2F8F1+IDEOGRAPH-2F8F2+IDEOGRAPH-2F8F3+IDEOGRAPH-2F8F4+IDEOGRAPH-2F8F5",
   "+IDEOGRAPH-2F8F6+IDEOGRAPH-2F8F7+IDEOGRAPH-2F8F8+IDEOGRAPH-2F8F9+IDEOGRAPH-2F8FA",
   "+IDEOGRAPH-2F8FB+IDEOGRAPH-2F8FC+IDEOGRAPH-2F8FD+IDEOGRAPH-2F8FE+IDEOGRAPH-2F8FF",
   "+IDEOGRAPH-2F900+IDEOGRAPH-2F901+IDEOGRAPH-2F902+IDEOGRAPH-2F903+IDEOGRAPH-2F904",
   "+IDEOGRAPH-2F905+IDEOGRAPH-2F906+IDEOGRAPH-2F907+IDEOGRAPH-2F908+IDEOGRAPH-2F909",
   "+IDEOGRAPH-2F90A+IDEOGRAPH-2F90B+IDEOGRAPH-2F90C+IDEOGRAPH-2F90D+IDEOGRAPH-2F90E",
   "+IDEOGRAPH-2F90F+IDEOGRAPH-2F910+IDEOGRAPH-2F911+IDEOGRAPH-2F912+IDEOGRAPH-2F913",
   "+IDEOGRAPH-2F914+IDEOGRAPH-2F915+IDEOGRAPH-2F916+IDEOGRAPH-2F917+IDEOGRAPH-2F918",
   "+IDEOGRAPH-2F919+IDEOGRAPH-2F91A+IDEOGRAPH-2F91B+IDEOGRAPH-2F91C+IDEOGRAPH-2F91D",
   "+IDEOGRAPH-2F91E+IDEOGRAPH-2F91F+IDEOGRAPH-2F920+IDEOGRAPH-2F921+IDEOGRAPH-2F922",
   "+IDEOGRAPH-2F923+IDEOGRAPH-2F924+IDEOGRAPH-2F925+IDEOGRAPH-2F926+IDEOGRAPH-2F927",
   "+IDEOGRAPH-2F928+IDEOGRAPH-2F929+IDEOGRAPH-2F92A+IDEOGRAPH-2F92B+IDEOGRAPH-2F92C",
   "+IDEOGRAPH-2F92D+IDEOGRAPH-2F92E+IDEOGRAPH-2F92F+IDEOGRAPH-2F930+IDEOGRAPH-2F931",
   "+IDEOGRAPH-2F932+IDEOGRAPH-2F933+IDEOGRAPH-2F934+IDEOGRAPH-2F935+IDEOGRAPH-2F936",
   "+IDEOGRAPH-2F937+IDEOGRAPH-2F938+IDEOGRAPH-2F939+IDEOGRAPH-2F93A+IDEOGRAPH-2F93B",
   "+IDEOGRAPH-2F93C+IDEOGRAPH-2F93D+IDEOGRAPH-2F93E+IDEOGRAPH-2F93F+IDEOGRAPH-2F940",
   "+IDEOGRAPH-2F941+IDEOGRAPH-2F942+IDEOGRAPH-2F943+IDEOGRAPH-2F944+IDEOGRAPH-2F945",
   "+IDEOGRAPH-2F946+IDEOGRAPH-2F947+IDEOGRAPH-2F948+IDEOGRAPH-2F949+IDEOGRAPH-2F94A",
   "+IDEOGRAPH-2F94B+IDEOGRAPH-2F94C+IDEOGRAPH-2F94D+IDEOGRAPH-2F94E+IDEOGRAPH-2F94F",
   "+IDEOGRAPH-2F950+IDEOGRAPH-2F951+IDEOGRAPH-2F952+IDEOGRAPH-2F953+IDEOGRAPH-2F954",
   "+IDEOGRAPH-2F955+IDEOGRAPH-2F956+IDEOGRAPH-2F957+IDEOGRAPH-2F958+IDEOGRAPH-2F959",
   "+IDEOGRAPH-2F95A+IDEOGRAPH-2F95B+IDEOGRAPH-2F95C+IDEOGRAPH-2F95D+IDEOGRAPH-2F95E",
   "+IDEOGRAPH-2F95F+IDEOGRAPH-2F960+IDEOGRAPH-2F961+IDEOGRAPH-2F962+IDEOGRAPH-2F963",
   "+IDEOGRAPH-2F964+IDEOGRAPH-2F965+IDEOGRAPH-2F966+IDEOGRAPH-2F967+IDEOGRAPH-2F968",
   "+IDEOGRAPH-2F969+IDEOGRAPH-2F96A+IDEOGRAPH-2F96B+IDEOGRAPH-2F96C+IDEOGRAPH-2F96D",
   "+IDEOGRAPH-2F96E+IDEOGRAPH-2F96F+IDEOGRAPH-2F970+IDEOGRAPH-2F971+IDEOGRAPH-2F972",
   "+IDEOGRAPH-2F973+IDEOGRAPH-2F974+IDEOGRAPH-2F975+IDEOGRAPH-2F976+IDEOGRAPH-2F977",
   "+IDEOGRAPH-2F978+IDEOGRAPH-2F979+IDEOGRAPH-2F97A+IDEOGRAPH-2F97B+IDEOGRAPH-2F97C",
   "+IDEOGRAPH-2F97D+IDEOGRAPH-2F97E+IDEOGRAPH-2F97F+IDEOGRAPH-2F980+IDEOGRAPH-2F981",
   "+IDEOGRAPH-2F982+IDEOGRAPH-2F983+IDEOGRAPH-2F984+IDEOGRAPH-2F985+IDEOGRAPH-2F986",
   "+IDEOGRAPH-2F987+IDEOGRAPH-2F988+IDEOGRAPH-2F989+IDEOGRAPH-2F98A+IDEOGRAPH-2F98B",
   "+IDEOGRAPH-2F98C+IDEOGRAPH-2F98D+IDEOGRAPH-2F98E+IDEOGRAPH-2F98F+IDEOGRAPH-2F990",
   "+IDEOGRAPH-2F991+IDEOGRAPH-2F992+IDEOGRAPH-2F993+IDEOGRAPH-2F994+IDEOGRAPH-2F995",
   "+IDEOGRAPH-2F996+IDEOGRAPH-2F997+IDEOGRAPH-2F998+IDEOGRAPH-2F999+IDEOGRAPH-2F99A",
   "+IDEOGRAPH-2F99B+IDEOGRAPH-2F99C+IDEOGRAPH-2F99D+IDEOGRAPH-2F99E+IDEOGRAPH-2F99F",
   "+IDEOGRAPH-2F9A0+IDEOGRAPH-2F9A1+IDEOGRAPH-2F9A2+IDEOGRAPH-2F9A3+IDEOGRAPH-2F9A4",
   "+IDEOGRAPH-2F9A5+IDEOGRAPH-2F9A6+IDEOGRAPH-2F9A7+IDEOGRAPH-2F9A8+IDEOGRAPH-2F9A9",
   "+IDEOGRAPH-2F9AA+IDEOGRAPH-2F9AB+IDEOGRAPH-2F9AC+IDEOGRAPH-2F9AD+IDEOGRAPH-2F9AE",
   "+IDEOGRAPH-2F9AF+IDEOGRAPH-2F9B0+IDEOGRAPH-2F9B1+IDEOGRAPH-2F9B2+IDEOGRAPH-2F9B3",
   "+IDEOGRAPH-2F9B4+IDEOGRAPH-2F9B5+IDEOGRAPH-2F9B6+IDEOGRAPH-2F9B7+IDEOGRAPH-2F9B8",
   "+IDEOGRAPH-2F9B9+IDEOGRAPH-2F9BA+IDEOGRAPH-2F9BB+IDEOGRAPH-2F9BC+IDEOGRAPH-2F9BD",
   "+IDEOGRAPH-2F9BE+IDEOGRAPH-2F9BF+IDEOGRAPH-2F9C0+IDEOGRAPH-2F9C1+IDEOGRAPH-2F9C2",
   "+IDEOGRAPH-2F9C3+IDEOGRAPH-2F9C4+IDEOGRAPH-2F9C5+IDEOGRAPH-2F9C6+IDEOGRAPH-2F9C7",
   "+IDEOGRAPH-2F9C8+IDEOGRAPH-2F9C9+IDEOGRAPH-2F9CA+IDEOGRAPH-2F9CB+IDEOGRAPH-2F9CC",
   "+IDEOGRAPH-2F9CD+IDEOGRAPH-2F9CE+IDEOGRAPH-2F9CF+IDEOGRAPH-2F9D0+IDEOGRAPH-2F9D1",
   "+IDEOGRAPH-2F9D2+IDEOGRAPH-2F9D3+IDEOGRAPH-2F9D4+IDEOGRAPH-2F9D5+IDEOGRAPH-2F9D6",
   "+IDEOGRAPH-2F9D7+IDEOGRAPH-2F9D8+IDEOGRAPH-2F9D9+IDEOGRAPH-2F9DA+IDEOGRAPH-2F9DB",
   "+IDEOGRAPH-2F9DC+IDEOGRAPH-2F9DD+IDEOGRAPH-2F9DE+IDEOGRAPH-2F9DF+IDEOGRAPH-2F9E0",
   "+IDEOGRAPH-2F9E1+IDEOGRAPH-2F9E2+IDEOGRAPH-2F9E3+IDEOGRAPH-2F9E4+IDEOGRAPH-2F9E5",
   "+IDEOGRAPH-2F9E6+IDEOGRAPH-2F9E7+IDEOGRAPH-2F9E8+IDEOGRAPH-2F9E9+IDEOGRAPH-2F9EA",
   "+IDEOGRAPH-2F9EB+IDEOGRAPH-2F9EC+IDEOGRAPH-2F9ED+IDEOGRAPH-2F9EE+IDEOGRAPH-2F9EF",
   "+IDEOGRAPH-2F9F0+IDEOGRAPH-2F9F1+IDEOGRAPH-2F9F2+IDEOGRAPH-2F9F3+IDEOGRAPH-2F9F4",
   "+IDEOGRAPH-2F9F5+IDEOGRAPH-2F9F6+IDEOGRAPH-2F9F7+IDEOGRAPH-2F9F8+IDEOGRAPH-2F9F9",
   "+IDEOGRAPH-2F9FA+IDEOGRAPH-2F9FB+IDEOGRAPH-2F9FC+IDEOGRAPH-2F9FD+IDEOGRAPH-2F9FE",
   "+IDEOGRAPH-2F9FF+IDEOGRAPH-2FA00+IDEOGRAPH-2FA01+IDEOGRAPH-2FA02+IDEOGRAPH-2FA03",
   "+IDEOGRAPH-2FA04+IDEOGRAPH-2FA05+IDEOGRAPH-2FA06+IDEOGRAPH-2FA07+IDEOGRAPH-2FA08",
   "+IDEOGRAPH-2FA09+IDEOGRAPH-2FA0A+IDEOGRAPH-2FA0B+IDEOGRAPH-2FA0C+IDEOGRAPH-2FA0D",
   "+IDEOGRAPH-2FA0E+IDEOGRAPH-2FA0F+IDEOGRAPH-2FA10+IDEOGRAPH-2FA11+IDEOGRAPH-2FA12",
   "+IDEOGRAPH-2FA13+IDEOGRAPH-2FA14+IDEOGRAPH-2FA15+IDEOGRAPH-2FA16+IDEOGRAPH-2FA17",
   "+IDEOGRAPH-2FA18+IDEOGRAPH-2FA19+IDEOGRAPH-2FA1A+IDEOGRAPH-2FA1B+IDEOGRAPH-2FA1C",
   "+IDEOGRAPH-2FA1D^E0001&LANGUAGE TAG^E0020&TAGuy*hbnm*runm*pguh*DOLLARuh*PERCENTuh*aq*ax*mhqm",
   "*sgqm*bh*qzuh*dw*ka*ifvh*uv*fozw+pt+yb+wy+ib+hu+um+to+gi+or*du*tl*mpuh*gvuh*isuh*rtnm*dxAT",
   "*mfcvmqA:B:C:D:E:F:G:H:I:J:K:L:M:N:O:P:Q:R:S:T:U:V:W:X:Y:Z*mhvccm*scuv*sgvccm*dpae*nbmt*irae",
   "*mfusmqA:B:C:D:E:F:G:H:I:J:K:L:M:N:O:P:Q:R:S:T:U:V:W:X:Y:Z*mheocm*ypmt*sgeocm*xc&CANCEL TAG",
   "^E0100&VARIATION SELECTOR-17*SELECTOR-18*SELECTOR-19*SELECTOR-20*SELECTOR-21*SELECTOR-22",
   "*SELECTOR-23*SELECTOR-24*SELECTOR-25*SELECTOR-26*SELECTOR-27*SELECTOR-28*SELECTOR-29",
   "*SELECTOR-30*SELECTOR-31*SELECTOR-32*SELECTOR-33*SELECTOR-34*SELECTOR-35*SELECTOR-36",
   "*SELECTOR-37*SELECTOR-38*SELECTOR-39*SELECTOR-40*SELECTOR-41*SELECTOR-42*SELECTOR-43",
   "*SELECTOR-44*SELECTOR-45*SELECTOR-46*SELECTOR-47*SELECTOR-48*SELECTOR-49*SELECTOR-50",
   "*SELECTOR-51*SELECTOR-52*SELECTOR-53*SELECTOR-54*SELECTOR-55*SELECTOR-56*SELECTOR-57",
   "*SELECTOR-58*SELECTOR-59*SELECTOR-60*SELECTOR-61*SELECTOR-62*SELECTOR-63*SELECTOR-64",
   "*SELECTOR-65*SELECTOR-66*SELECTOR-67*SELECTOR-68*SELECTOR-69*SELECTOR-70*SELECTOR-71",
   "*SELECTOR-72*SELECTOR-73*SELECTOR-74*SELECTOR-75*SELECTOR-76*SELECTOR-77*SELECTOR-78",
   "*SELECTOR-79*SELECTOR-80*SELECTOR-81*SELECTOR-82*SELECTOR-83*SELECTOR-84*SELECTOR-85",
   "*SELECTOR-86*SELECTOR-87*SELECTOR-88*SELECTOR-89*SELECTOR-90*SELECTOR-91*SELECTOR-92",
   "*SELECTOR-93*SELECTOR-94*SELECTOR-95*SELECTOR-96*SELECTOR-97*SELECTOR-98*SELECTOR-99",
   "*SELECTOR-100*SELECTOR-101*SELECTOR-102*SELECTOR-103*SELECTOR-104*SELECTOR-105*SELECTOR-106",
   "*SELECTOR-107*SELECTOR-108*SELECTOR-109*SELECTOR-110*SELECTOR-111*SELECTOR-112*SELECTOR-113",
   "*SELECTOR-114*SELECTOR-115*SELECTOR-116*SELECTOR-117*SELECTOR-118*SELECTOR-119*SELECTOR-120",
   "*SELECTOR-121*SELECTOR-122*SELECTOR-123*SELECTOR-124*SELECTOR-125*SELECTOR-126*SELECTOR-127",
   "*SELECTOR-128*SELECTOR-129*SELECTOR-130*SELECTOR-131*SELECTOR-132*SELECTOR-133*SELECTOR-134",
   "*SELECTOR-135*SELECTOR-136*SELECTOR-137*SELECTOR-138*SELECTOR-139*SELECTOR-140*SELECTOR-141",
   "*SELECTOR-142*SELECTOR-143*SELECTOR-144*SELECTOR-145*SELECTOR-146*SELECTOR-147*SELECTOR-148",
   "*SELECTOR-149*SELECTOR-150*SELECTOR-151*SELECTOR-152*SELECTOR-153*SELECTOR-154*SELECTOR-155",
   "*SELECTOR-156*SELECTOR-157*SELECTOR-158*SELECTOR-159*SELECTOR-160*SELECTOR-161*SELECTOR-162",
   "*SELECTOR-163*SELECTOR-164*SELECTOR-165*SELECTOR-166*SELECTOR-167*SELECTOR-168*SELECTOR-169",
   "*SELECTOR-170*SELECTOR-171*SELECTOR-172*SELECTOR-173*SELECTOR-174*SELECTOR-175*SELECTOR-176",
   "*SELECTOR-177*SELECTOR-178*SELECTOR-179*SELECTOR-180*SELECTOR-181*SELECTOR-182*SELECTOR-183",
   "*SELECTOR-184*SELECTOR-185*SELECTOR-186*SELECTOR-187*SELECTOR-188*SELECTOR-189*SELECTOR-190",
   "*SELECTOR-191*SELECTOR-192*SELECTOR-193*SELECTOR-194*SELECTOR-195*SELECTOR-196*SELECTOR-197",
   "*SELECTOR-198*SELECTOR-199*SELECTOR-200*SELECTOR-201*SELECTOR-202*SELECTOR-203*SELECTOR-204",
   "*SELECTOR-205*SELECTOR-206*SELECTOR-207*SELECTOR-208*SELECTOR-209*SELECTOR-210*SELECTOR-211",
   "*SELECTOR-212*SELECTOR-213*SELECTOR-214*SELECTOR-215*SELECTOR-216*SELECTOR-217*SELECTOR-218",
   "*SELECTOR-219*SELECTOR-220*SELECTOR-221*SELECTOR-222*SELECTOR-223*SELECTOR-224*SELECTOR-225",
   "*SELECTOR-226*SELECTOR-227*SELECTOR-228*SELECTOR-229*SELECTOR-230*SELECTOR-231*SELECTOR-232",
   "*SELECTOR-233*SELECTOR-234*SELECTOR-235*SELECTOR-236*SELECTOR-237*SELECTOR-238*SELECTOR-239",
   "*SELECTOR-240*SELECTOR-241*SELECTOR-242*SELECTOR-243*SELECTOR-244*SELECTOR-245*SELECTOR-246",
   "*SELECTOR-247*SELECTOR-248*SELECTOR-249*SELECTOR-250*SELECTOR-251*SELECTOR-252*SELECTOR-253",
   "*SELECTOR-254*SELECTOR-255*SELECTOR-256"]

end Assay.Text.CharacterName
